import OfflineChat.Proofs.LiteralReading
import OfflineChat.Proofs.WrittenNumerals

/-! # Written values are read back

A value is written on one line or over several.  Both are layouts: they differ in
the blanks they put before an item, a closing bracket and the value of a member
(`Json.Layout`).  Whatever the layout, the text of a value is read as the document
of that value, and reading goes on behind it (`Document.value_text`).  The
induction is on the value.  What is read where an item begins is decided by one
character, and the value itself says which one that is: no value begins with a
blank or a closing bracket.  The reader's fuel outlasts the text, since every value
takes a character at least.

Numbers with a fraction are the only values whose text says too little by itself:
a value is `Json.Legible` if those in it are written as literals.  The main
statements are `Document.ofText_render` and `Document.ofText_pretty`.
-/
namespace OfflineChat

/-- A value in which no number has a fraction. -/
inductive Json.FloatFree : Json → Prop
  | null : FloatFree .null
  | bool (b : Bool) : FloatFree (.bool b)
  | int (n : Int) : FloatFree (.int n)
  | str (s : String) : FloatFree (.str s)
  | arr {items : List Json} (h : ∀ v ∈ items, FloatFree v) : FloatFree (.arr items)
  | obj {members : List (String × Json)} (h : ∀ e ∈ members, FloatFree e.2) :
      FloatFree (.obj members)

/-- A value in which every number is written as a literal. -/
inductive Json.Legible : Json → Prop
  | null : Legible .null
  | bool (b : Bool) : Legible (.bool b)
  | int (n : Int) : Legible (.int n)
  | float {f : BinaryFormat} {x : Binary} {n : Numeral}
      (h : Numeral.scan (Json.floatChars f x) = some (n, [])) : Legible (.float f x)
  | str (s : String) : Legible (.str s)
  | arr {items : List Json} (h : ∀ v ∈ items, Legible v) : Legible (.arr items)
  | obj {members : List (String × Json)} (h : ∀ e ∈ members, Legible e.2) :
      Legible (.obj members)

/-- Only blanks. -/
def Document.Blank (gap : List Char) : Prop := ∀ c ∈ gap, Document.isGap c = true

/-- Where the parts of a value are put: the blanks before an item or a closing bracket of each
level, and those before the value of a member. -/
structure Json.Layout where
  line : Nat → List Char
  space : List Char
  blank_line : ∀ level, Document.Blank (line level)
  blank_space : Document.Blank space

namespace Json.FloatFree

variable {j : Json}

attribute [simp] FloatFree.null FloatFree.bool FloatFree.int FloatFree.str

theorem of_arr {items : List Json} (h : FloatFree (.arr items)) : ∀ v ∈ items, FloatFree v := by
  cases h with
  | arr h => exact h

theorem of_obj {members : List (String × Json)} (h : FloatFree (.obj members)) :
    ∀ e ∈ members, FloatFree e.2 := by
  cases h with
  | obj h => exact h

@[simp] theorem arr_iff {items : List Json} : FloatFree (.arr items) ↔ ∀ v ∈ items, FloatFree v :=
  ⟨of_arr, .arr⟩

@[simp] theorem obj_iff {members : List (String × Json)} :
    FloatFree (.obj members) ↔ ∀ e ∈ members, FloatFree e.2 :=
  ⟨of_obj, .obj⟩

/-- Integers are written as literals. -/
theorem legible (h : j.FloatFree) : j.Legible := by
  induction h with
  | null => exact .null
  | bool b => exact .bool b
  | int n => exact .int n
  | str s => exact .str s
  | arr _ ih => exact .arr ih
  | obj _ ih => exact .obj ih

end Json.FloatFree

namespace Json.Layout

variable (l : Layout)

mutual

/-- The text of a value, the outermost bracket being at the given level. -/
def text (level : Nat) : Json → List Char
  | .arr [] => ['[', ']']
  | .arr (v :: rest) =>
    '[' :: (l.line (level + 1) ++ (text (level + 1) v ++
      (moreItems (level + 1) rest ++ (l.line level ++ [']']))))
  | .obj [] => ['{', '}']
  | .obj ((k, v) :: rest) =>
    '{' :: (l.line (level + 1) ++ (literalChars k ++ ':' :: (l.space ++ (text (level + 1) v ++
      (moreMembers (level + 1) rest ++ (l.line level ++ ['}']))))))
  | v => v.chars

/-- The items after the first. -/
def moreItems (level : Nat) : List Json → List Char
  | [] => []
  | v :: rest => ',' :: (l.line level ++ (text level v ++ moreItems level rest))

/-- The members after the first. -/
def moreMembers (level : Nat) : List (String × Json) → List Char
  | [] => []
  | (k, v) :: rest =>
    ',' :: (l.line level ++ (literalChars k ++ ':' :: (l.space ++ (text level v ++
      moreMembers level rest))))

end

/-- Everything on one line. -/
def compact : Layout where
  line _ := []
  space := []
  blank_line _ := nofun
  blank_space := nofun

/-- Each item on a line of its own. -/
def indented : Layout where
  line level := (newline level).toList
  space := [' ']
  blank_line level := by
    intro c hc
    rw [newline, String.toList_append] at hc
    rcases List.mem_append.mp hc with hc | hc
    · obtain rfl : c = '\n' := List.mem_singleton.mp hc
      rfl
    · rw [String.toList_ofList] at hc
      obtain rfl : c = ' ' := List.eq_of_mem_replicate hc
      rfl
  blank_space := by
    intro c hc
    obtain rfl : c = ' ' := List.mem_singleton.mp hc
    rfl

mutual

theorem text_compact (level : Nat) : ∀ j : Json, compact.text level j = j.chars
  | .arr [] => rfl
  | .arr (v :: rest) => by
    rw [text, text_compact (level + 1) v, chars, ← chars_moreItems (level + 1) v rest]
    simp [compact]
  | .obj [] => rfl
  | .obj ((k, v) :: rest) => by
    rw [text, text_compact (level + 1) v, chars, ← chars_moreMembers (level + 1) k v rest]
    simp [compact]
  | .null | .bool _ | .int _ | .float .. | .str _ => rfl

theorem chars_moreItems (level : Nat) (v : Json) :
    ∀ rest : List Json, v.chars ++ compact.moreItems level rest = itemChars (v :: rest)
  | [] => List.append_nil _
  | w :: rest => by
    rw [moreItems, text_compact level w, chars_moreItems level w rest]
    rfl

theorem chars_moreMembers (level : Nat) (k : String) (v : Json) :
    ∀ rest : List (String × Json),
      literalChars k ++ ':' :: (v.chars ++ compact.moreMembers level rest) =
        memberChars ((k, v) :: rest)
  | [] => by
    rw [moreMembers, List.append_nil]
    rfl
  | (k', v') :: rest => by
    have hnext := chars_moreMembers level k' v' rest
    rw [moreMembers, text_compact level v', memberChars, ← hnext]
    simp [compact]

end

mutual

theorem text_indented (level : Nat) : ∀ j : Json, indented.text level j = (j.prettyAt level).toList
  | .arr [] => by
    rw [text, prettyAt]
    rfl
  | .arr (v :: rest) => by
    rw [text, text_indented (level + 1) v, moreItems_indented (level + 1) rest, prettyAt]
    simp [indented]
  | .obj [] => by
    rw [text, prettyAt]
    rfl
  | .obj ((k, v) :: rest) => by
    rw [text, text_indented (level + 1) v, moreMembers_indented (level + 1) rest, prettyAt]
    simp [indented]
  | .null | .bool _ | .int _ | .float .. | .str _ => String.toList_ofList.symm

theorem moreItems_indented (level : Nat) :
    ∀ rest : List Json, indented.moreItems level rest = (prettyItems level rest).toList
  | [] => rfl
  | v :: rest => by
    rw [moreItems, text_indented level v, moreItems_indented level rest, prettyItems]
    simp [indented]

theorem moreMembers_indented (level : Nat) :
    ∀ rest : List (String × Json),
      indented.moreMembers level rest = (prettyMembers level rest).toList
  | [] => rfl
  | (k, v) :: rest => by
    rw [moreMembers, text_indented level v, moreMembers_indented level rest, prettyMembers]
    simp [indented]

end

end Json.Layout

namespace Json.Legible

variable {j : Json} {l : Layout}

/-- A character that begins a number is no other one. -/
theorem ne_of_number {c x : Char} (hc : c.isDigit = true ∨ c = '-') (hx : x.isDigit = false)
    (hsign : x ≠ '-') : c ≠ x := by
  rintro rfl
  rcases hc with hdigit | rfl
  · rw [hx] at hdigit
    exact Bool.false_ne_true hdigit
  · exact hsign rfl

theorem isGap_of_number {c : Char} (hc : c.isDigit = true ∨ c = '-') :
    Document.isGap c = false := by
  have hblank := ne_of_number hc (x := ' ') rfl (by decide)
  have hline := ne_of_number hc (x := '\n') rfl (by decide)
  have htab := ne_of_number hc (x := '\t') rfl (by decide)
  have hreturn := ne_of_number hc (x := '\r') rfl (by decide)
  simp [Document.isGap, hblank, hline, htab, hreturn]

/-- A literal does not begin with a blank or a bracket that closes. -/
theorem cons_of_scan {n : Numeral} {cs rest : List Char} (h : Numeral.scan cs = some (n, rest)) :
    ∃ c body, cs = c :: body ∧ Document.isGap c = false ∧ c ≠ ']' := by
  obtain ⟨c, body, rfl, hc⟩ := Numeral.scan_cons h
  exact ⟨c, body, rfl, isGap_of_number hc, ne_of_number hc rfl (by decide)⟩

/-- **A value does not begin with a blank or a bracket that closes.** -/
theorem text_cons (h : j.Legible) (level : Nat) :
    ∃ c cs, l.text level j = c :: cs ∧ Document.isGap c = false ∧ c ≠ ']' := by
  cases h with
  | null => exact ⟨_, _, rfl, by decide, by decide⟩
  | bool b => cases b <;> exact ⟨_, _, rfl, by decide, by decide⟩
  | int n => exact cons_of_scan (Numeral.scan_intChars n)
  | float h => exact cons_of_scan h
  | str s => exact ⟨_, _, rfl, by decide, by decide⟩
  | @arr items h => cases items <;> exact ⟨_, _, rfl, by decide, by decide⟩
  | @obj members h => cases members <;> exact ⟨_, _, rfl, by decide, by decide⟩

end Json.Legible

namespace Document

open Json (Layout Legible)

variable {j : Json} {c : Char} {cs gap rest : List Char} {fuel : Nat} {l : Layout} {level : Nat}

/-! ## Blanks -/

theorem skipGaps_cons (h : isGap c = false) : skipGaps (c :: cs) = c :: cs :=
  List.dropWhile_cons_of_neg (by rw [h]; exact Bool.false_ne_true)

theorem skipGaps_append (h : Blank gap) (cs : List Char) : skipGaps (gap ++ cs) = skipGaps cs :=
  List.dropWhile_append_of_pos h

/-- Blanks before a value are passed over. -/
theorem value_append (h : Blank gap) (cs : List Char) :
    value (fuel + 1) (gap ++ cs) = value (fuel + 1) cs := by
  unfold value
  rw [skipGaps_append h]

/-- Blanks end a value, and so does what may stand behind them. -/
theorem EndsValue.append (h : EndsValue rest) (hgap : Blank gap) : EndsValue (gap ++ rest) := by
  cases gap with
  | nil => exact h
  | cons c gap =>
    intro c' hc'
    obtain rfl : c = c' := Option.some.inj hc'
    exact .inr (.inr (.inr (hgap c (List.mem_cons_self ..))))

theorem endsValue_comma : EndsValue (',' :: cs) := by simp [EndsValue]

theorem endsValue_square : EndsValue (']' :: cs) := by simp [EndsValue]

theorem endsValue_brace : EndsValue ('}' :: cs) := by simp [EndsValue]

/-! ## Single values -/

/-- A value reads as a document that is whole. -/
theorem complete_ofJson (j : Json) : (ofJson j).complete = true := by
  cases j with
  | float f x =>
    unfold ofJson
    split <;> rfl
  | _ => rfl

theorem ofMembers_eq_map (ms : List (String × Json)) :
    ofMembers ms = ms.map fun m => (some m.1, ofJson m.2) := by
  induction ms with
  | nil => rfl
  | cons m ms ih =>
    rw [List.map_cons, ← ih]
    rfl

theorem ofJson_float {f : BinaryFormat} {x : Binary} {n : Numeral}
    (h : Numeral.scan (Json.floatChars f x) = some (n, [])) : ofJson (.float f x) = .number n := by
  unfold ofJson
  rw [h]

/-- Only null reads as null. -/
theorem ofJson_ne_null (h : j.Legible) (hj : j ≠ .null) : ofJson j ≠ .null := by
  cases h with
  | null => exact absurd rfl hj
  | float h =>
    rw [ofJson_float h]
    nofun
  | _ => nofun

/-- A literal is read as a number, whatever stands behind it. -/
theorem value_of_scan {n : Numeral} (h : Numeral.scan cs = some (n, [])) (hrest : EndsValue rest) :
    value (fuel + 1) (cs ++ rest) = (.number n, rest) := by
  have hscan := Numeral.scan_append h hrest
  obtain ⟨c, body, rfl, hc⟩ := Numeral.scan_cons h
  rw [List.cons_append] at hscan ⊢
  have hgap : skipGaps (c :: (body ++ rest)) = c :: (body ++ rest) :=
    skipGaps_cons (Legible.isGap_of_number hc)
  have hne {x : Char} (hx : x.isDigit = false) (hsign : x ≠ '-') : c ≠ x :=
    Legible.ne_of_number hc hx hsign
  -- none of the other values begins as a number does
  have hnull : c ≠ 'n' := hne rfl (by decide)
  have htrue : c ≠ 't' := hne rfl (by decide)
  have hfalse : c ≠ 'f' := hne rfl (by decide)
  have hquote : c ≠ '"' := hne rfl (by decide)
  have hsquare : c ≠ '[' := hne rfl (by decide)
  have hbrace : c ≠ '{' := hne rfl (by decide)
  unfold value
  simp [hgap, hscan, hnull, htrue, hfalse, hquote, hsquare, hbrace]

/-- The value is read from its text as its document, whatever blanks stand before it and whatever
follows. -/
def ReadsBack (l : Layout) (j : Json) : Prop :=
  ∀ {level fuel : Nat} {gap rest : List Char}, Blank gap → (l.text level j).length ≤ fuel →
    EndsValue rest → value fuel (gap ++ (l.text level j ++ rest)) = (ofJson j, rest)

/-- A value takes a character, so there is fuel for it. -/
theorem readsBack_of_succ (h : j.Legible)
    (hread : ∀ (level fuel : Nat) (rest : List Char), (l.text level j).length ≤ fuel + 1 →
      EndsValue rest → value (fuel + 1) (l.text level j ++ rest) = (ofJson j, rest)) :
    ReadsBack l j := by
  intro level fuel gap rest hgap hfuel hrest
  obtain ⟨c, cs, hcs, -⟩ := h.text_cons (l := l) level
  cases fuel with
  | zero =>
    rw [hcs] at hfuel
    exact absurd hfuel (Nat.not_succ_le_zero _)
  | succ fuel => exact (value_append hgap _).trans (hread level fuel rest hfuel hrest)

/-! ## Items and members -/

theorem items_last {v : Document} (hgap : Blank gap)
    (hv : value fuel cs = (v, gap ++ ']' :: rest)) (hwhole : v.complete = true) :
    items (fuel + 1) cs = ([v], true, rest) := by
  rw [items, hv]
  dsimp only
  rw [if_pos hwhole, skipGaps_append hgap, skipGaps_cons (by decide)]
  rfl

theorem items_comma {v : Document} (hgap : Blank gap)
    (hv : value fuel cs = (v, ',' :: (gap ++ c :: rest)))
    (hwhole : v.complete = true) (hc : isGap c = false) (hclose : c ≠ ']') :
    items (fuel + 1) cs =
      (v :: (items fuel (gap ++ c :: rest)).1, (items fuel (gap ++ c :: rest)).2.1,
        (items fuel (gap ++ c :: rest)).2.2) := by
  rw [items, hv]
  dsimp only
  rw [if_pos hwhole, skipGaps_cons (by decide)]
  simp [skipGaps_append hgap, skipGaps_cons hc, hclose]

/-- Items, up to the bracket behind them. -/
theorem items_text {stop : List Char} (hstop : Blank stop) (rest : List Char) {v : Json}
    {vs : List Json} (hlegible : ∀ w ∈ v :: vs, Legible w) (hread : ∀ w ∈ v :: vs, ReadsBack l w)
    (hgap : Blank gap) (hfuel : (l.text level v).length + (l.moreItems level vs).length < fuel) :
    items fuel (gap ++ (l.text level v ++ (l.moreItems level vs ++ (stop ++ ']' :: rest)))) =
      (ofItems (v :: vs), true, rest) := by
  induction vs generalizing v gap fuel with
  | nil =>
    obtain ⟨fuel, rfl⟩ := Nat.exists_eq_add_of_le' (Nat.lt_of_le_of_lt (Nat.zero_le _) hfuel)
    have hend : EndsValue (stop ++ ']' :: rest) := endsValue_square.append hstop
    have hlength : (l.text level v).length ≤ fuel := Nat.lt_succ_iff.mp hfuel
    exact items_last hstop (hread v (List.mem_cons_self ..) hgap hlength hend) (complete_ofJson v)
  | cons w ws ih =>
    obtain ⟨fuel, rfl⟩ := Nat.exists_eq_add_of_le' (Nat.lt_of_le_of_lt (Nat.zero_le _) hfuel)
    have hlength : (l.text level v).length ≤ fuel ∧
        (l.text level w).length + (l.moreItems level ws).length < fuel := by
      simp only [Layout.moreItems, List.length_cons, List.length_append] at hfuel
      omega
    have hnext := ih (fun u hu => hlegible u (List.mem_cons_of_mem _ hu))
      (fun u hu => hread u (List.mem_cons_of_mem _ hu)) (l.blank_line level) hlength.2
    have hv {cs : List Char} :
        value fuel (gap ++ (l.text level v ++ ',' :: cs)) = (ofJson v, ',' :: cs) :=
      hread v (List.mem_cons_self ..) hgap hlength.1 endsValue_comma
    -- behind the comma stands the first character of the next item, so the list goes on
    obtain ⟨c, cs, hcs, hc, hclose⟩ := (hlegible w (by simp)).text_cons (l := l) level
    rw [Layout.moreItems, List.cons_append, List.append_assoc, List.append_assoc]
    rw [hcs, List.cons_append] at hnext ⊢
    rw [items_comma (l.blank_line level) hv (complete_ofJson v) hc hclose, hnext]
    rfl

theorem literalChars_append (k : String) (cs : List Char) :
    Json.literalChars k ++ cs = '"' :: (k.toList.flatMap Json.escapeChar ++ '"' :: cs) := by
  simp [Json.literalChars]

theorem members_last {k : String} {v : Document} {stop : List Char} (hgap : Blank gap)
    (hstop : Blank stop) (hv : value fuel cs = (v, stop ++ '}' :: rest))
    (hwhole : v.complete = true) :
    members (fuel + 1) (gap ++ (Json.literalChars k ++ ':' :: cs)) =
      ([(some k, v)], .closed, rest) := by
  have hkey := literal_flatMap_escapeChar k (':' :: cs)
  have hquote : skipGaps ('"' :: (k.toList.flatMap Json.escapeChar ++ '"' :: ':' :: cs)) = _ :=
    skipGaps_cons (by decide)
  have hcolon : skipGaps (':' :: cs) = _ := skipGaps_cons (by decide)
  have hclose : skipGaps ('}' :: rest) = _ := skipGaps_cons (by decide)
  rw [literalChars_append, members]
  simp only [skipGaps_append hgap, hquote, hkey, hcolon, hv, hwhole, skipGaps_append hstop, hclose,
    if_true]

theorem members_comma {k : String} {v : Document} {next : List Char} (hgap : Blank gap)
    (hnext : Blank next) (hv : value fuel cs = (v, ',' :: (next ++ '"' :: rest)))
    (hwhole : v.complete = true) :
    members (fuel + 1) (gap ++ (Json.literalChars k ++ ':' :: cs)) =
      ((some k, v) :: (members fuel (next ++ '"' :: rest)).1,
        (members fuel (next ++ '"' :: rest)).2.1, (members fuel (next ++ '"' :: rest)).2.2) := by
  have hkey := literal_flatMap_escapeChar k (':' :: cs)
  have hquote : skipGaps ('"' :: (k.toList.flatMap Json.escapeChar ++ '"' :: ':' :: cs)) = _ :=
    skipGaps_cons (by decide)
  have hcolon : skipGaps (':' :: cs) = _ := skipGaps_cons (by decide)
  have hcomma : skipGaps (',' :: (next ++ '"' :: rest)) = _ := skipGaps_cons (by decide)
  have hkeyNext : skipGaps ('"' :: rest) = _ := skipGaps_cons (by decide)
  rw [literalChars_append, members]
  simp only [skipGaps_append hgap, hquote, hkey, hcolon, hv, hwhole, hcomma, skipGaps_append hnext,
    hkeyNext, if_true]

/-- Members, up to the bracket behind them. -/
theorem members_text {stop : List Char} (hstop : Blank stop) (rest : List Char) {k : String}
    {v : Json} {ms : List (String × Json)} (hread : ∀ m ∈ (k, v) :: ms, ReadsBack l m.2)
    (hgap : Blank gap)
    (hfuel : (l.text level v).length + (l.moreMembers level ms).length < fuel) :
    Document.members fuel (gap ++ (Json.literalChars k ++ ':' :: (l.space ++ (l.text level v ++
      (l.moreMembers level ms ++ (stop ++ '}' :: rest)))))) =
      (ofMembers ((k, v) :: ms), .closed, rest) := by
  induction ms generalizing k v gap fuel with
  | nil =>
    obtain ⟨fuel, rfl⟩ := Nat.exists_eq_add_of_le' (Nat.lt_of_le_of_lt (Nat.zero_le _) hfuel)
    have hend : EndsValue (stop ++ '}' :: rest) := endsValue_brace.append hstop
    have hlength : (l.text level v).length ≤ fuel := Nat.lt_succ_iff.mp hfuel
    exact members_last hgap hstop (hread (k, v) (List.mem_cons_self ..) l.blank_space hlength hend)
      (complete_ofJson v)
  | cons m ms ih =>
    obtain ⟨k', v'⟩ := m
    obtain ⟨fuel, rfl⟩ := Nat.exists_eq_add_of_le' (Nat.lt_of_le_of_lt (Nat.zero_le _) hfuel)
    have hlength : (l.text level v).length ≤ fuel ∧
        (l.text level v').length + (l.moreMembers level ms).length < fuel := by
      simp only [Layout.moreMembers, List.length_cons, List.length_append] at hfuel
      omega
    have hnext := ih (fun m hm => hread m (List.mem_cons_of_mem _ hm)) (l.blank_line level) hlength.2
    have hv {cs : List Char} :
        value fuel (l.space ++ (l.text level v ++ ',' :: cs)) = (ofJson v, ',' :: cs) :=
      hread (k, v) (List.mem_cons_self ..) l.blank_space hlength.1 endsValue_comma
    -- behind the comma stands the quote of the next key, so the object goes on
    rw [Layout.moreMembers, List.cons_append, List.append_assoc, List.append_assoc,
      List.cons_append, List.append_assoc, List.append_assoc]
    rw [literalChars_append k'] at hnext ⊢
    rw [members_comma hgap (l.blank_line level) hv (complete_ofJson v), hnext]
    rfl

/-! ## Values -/

theorem value_square (hgap : Blank gap) (hc : isGap c = false) (hclose : c ≠ ']') :
    value (fuel + 1) ('[' :: (gap ++ c :: cs)) =
      (.arr (items fuel (gap ++ c :: cs)).1 (items fuel (gap ++ c :: cs)).2.1,
        (items fuel (gap ++ c :: cs)).2.2) := by
  have hopen : skipGaps ('[' :: (gap ++ c :: cs)) = _ := skipGaps_cons (by decide)
  have hfirst : skipGaps (c :: cs) = _ := skipGaps_cons hc
  rw [value]
  simp [hopen, skipGaps_append hgap, hfirst, hclose]

theorem value_brace (hgap : Blank gap) :
    value (fuel + 1) ('{' :: (gap ++ '"' :: cs)) =
      (.obj (members fuel (gap ++ '"' :: cs)).1 (members fuel (gap ++ '"' :: cs)).2.1,
        (members fuel (gap ++ '"' :: cs)).2.2) := by
  have hopen : skipGaps ('{' :: (gap ++ '"' :: cs)) = _ := skipGaps_cons (by decide)
  have hfirst : skipGaps ('"' :: cs) = _ := skipGaps_cons (by decide)
  rw [value]
  simp [hopen, skipGaps_append hgap, hfirst]

/-- **A value is read back from its text**, however it is laid out and whatever stands behind
it. -/
theorem value_text (l : Layout) (h : j.Legible) : ReadsBack l j := by
  induction h with
  | null => exact readsBack_of_succ .null fun _ _ _ _ _ => rfl
  | bool b =>
    refine readsBack_of_succ (.bool b) fun _ _ _ _ _ => ?_
    cases b <;> rfl
  | int n =>
    exact readsBack_of_succ (.int n) fun _ _ _ _ hrest =>
      value_of_scan (Numeral.scan_intChars n) hrest
  | float h =>
    refine readsBack_of_succ (.float h) fun _ _ _ _ hrest => ?_
    rw [ofJson_float h]
    exact value_of_scan h hrest
  | str s =>
    exact readsBack_of_succ (.str s) fun _ fuel rest _ _ => value_literalChars fuel s rest
  | @arr items hlegible ih =>
    refine readsBack_of_succ (.arr hlegible) fun level fuel rest hfuel _ => ?_
    cases items with
    | nil => rfl
    | cons v vs =>
      have hlength :
          (l.text (level + 1) v).length + (l.moreItems (level + 1) vs).length < fuel := by
        simp only [Layout.text, List.length_append, List.length_cons, List.length_nil] at hfuel
        omega
      have hitems := items_text (l.blank_line level) rest hlegible ih
        (l.blank_line (level + 1)) hlength
      obtain ⟨c, cs, hcs, hc, hclose⟩ :=
        (hlegible v (List.mem_cons_self ..)).text_cons (l := l) (level + 1)
      simp only [Layout.text, List.cons_append, List.append_assoc, List.nil_append]
      rw [hcs, List.cons_append] at hitems ⊢
      rw [value_square (l.blank_line (level + 1)) hc hclose, hitems]
      rfl
  | @obj members hlegible ih =>
    refine readsBack_of_succ (.obj hlegible) fun level fuel rest hfuel _ => ?_
    cases members with
    | nil => rfl
    | cons m ms =>
      obtain ⟨k, v⟩ := m
      have hlength :
          (l.text (level + 1) v).length + (l.moreMembers (level + 1) ms).length < fuel := by
        simp only [Layout.text, List.length_append, List.length_cons, List.length_nil] at hfuel
        omega
      have hmembers := members_text (l.blank_line level) rest ih
        (l.blank_line (level + 1)) hlength
      simp only [Layout.text, List.cons_append, List.append_assoc, List.nil_append]
      rw [literalChars_append k] at hmembers ⊢
      rw [value_brace (l.blank_line (level + 1)), hmembers]
      rfl

/-- A text that is some layout of a value is read as that value, and to its end. -/
theorem ofText_of_text (l : Layout) (h : j.Legible) {text : String}
    (htext : text.toList = l.text level j) : ofText text = (ofJson j, true) := by
  have hlength : (l.text level j).length ≤ 2 * (l.text level j).length + 2 := by omega
  have hread : value _ ([] ++ (l.text level j ++ [])) = _ :=
    value_text l h nofun hlength (by simp [EndsValue])
  rw [List.nil_append, List.append_nil] at hread
  rw [ofText, htext, hread]
  rfl

/-- **The text of a value on one line is read as that value, and to its end.** -/
theorem ofText_render (h : j.Legible) : ofText j.render = (ofJson j, true) := by
  have htext : j.render.toList = Layout.compact.text 0 j := by
    rw [Layout.text_compact, Json.render, String.toList_ofList]
  exact ofText_of_text .compact h htext

/-- **The text of a value over several lines is read as that value, and to its end.** -/
theorem ofText_pretty (h : j.Legible) : ofText j.pretty = (ofJson j, true) :=
  ofText_of_text .indented h (Layout.text_indented 0 j).symm

end Document
end OfflineChat
