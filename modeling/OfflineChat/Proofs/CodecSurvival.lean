import OfflineChat.Proofs.DictEntries
import OfflineChat.Proofs.WrittenValues

/-! # Values survive being written

What a codec has read and writes is read as the same value again
(`Codec.Survives`).  Each way of building codecs keeps this property; what has no
part in it is a number with a fraction, so the values spoken of hold none.  A
value that was read need not have stood in the text: it may be the default of a
field that was left out, so some room for nesting is asked for.  Later, the same
codec may have another default for a time that was left out; hence two codecs.
-/
namespace OfflineChat

namespace Codec

variable {α β : Type} {n room : Nat} {c later : Codec α}

/-! ## Steps of a reader -/

theorem bind_eq_ok {ε : Type} {x : Except ε α} {f : α → Except ε β} {b : β} :
    x >>= f = .ok b ↔ ∃ a, x = .ok a ∧ f a = .ok b := by
  constructor
  · intro h
    cases x with
    | error e => cases h
    | ok a => exact ⟨a, rfl, h⟩
  · rintro ⟨a, rfl, h⟩
    exact h

theorem map_eq_ok {ε : Type} {x : Except ε α} {f : α → β} {b : β} :
    x.map f = .ok b ↔ ∃ a, x = .ok a ∧ f a = b := by
  constructor
  · intro h
    cases x with
    | error e => cases h
    | ok a => exact ⟨a, rfl, Except.ok.inj h⟩
  · rintro ⟨a, rfl, rfl⟩
    rfl

theorem enter_eq_ok {inner : Nat} : enter room = .ok inner ↔ 2 ≤ room ∧ inner = room - 1 := by
  unfold enter
  split
  · constructor
    · nofun
    · omega
  · constructor
    · intro h
      exact ⟨by omega, (Except.ok.inj h).symm⟩
    · rintro ⟨-, rfl⟩
      rfl

theorem closing_eq_ok {closed : Bool} {a b : α} :
    closing closed a = .ok b ↔ closed = true ∧ a = b := by
  cases closed with
  | false => exact ⟨nofun, fun h => nomatch h.1⟩
  | true => exact ⟨fun h => ⟨rfl, Except.ok.inj h⟩, fun h => congrArg _ h.2⟩

/-- What `c` has read, with room `n` at least, is read again by `later` where it is written. -/
def Survives (n : Nat) (c later : Codec α) : Prop :=
  ∀ ⦃room d a⦄, n ≤ room → c.read room d = .ok a → (c.write a).FloatFree →
    later.read room (.ofJson (c.write a)) = .ok a

theorem Survives.mono {m : Nat} (h : Survives m c later) (hmn : m ≤ n) : Survives n c later :=
  fun _ _ _ hroom => h (Nat.le_trans hmn hroom)

/-! ## Single values -/

theorem survives_bool : Survives n bool bool := fun _ _ _ _ _ _ => rfl

theorem survives_string : Survives n string string := fun _ _ _ _ _ _ => rfl

variable {lo hi : Int} {name : String}

/-- An integer in the bounds is read from where it is written. -/
theorem read_integer {i : Int} (hlo : -0x8000000000000000 ≤ lo) (hhi : hi ≤ 0xFFFFFFFFFFFFFFFF)
    (h : lo ≤ i ∧ i ≤ hi) : (integer lo hi name).read room (.ofJson (.int i)) = .ok i := by
  have hvalue : (Numeral.ofInt i).value? = some (.int i) :=
    Numeral.value?_ofInt ⟨by omega, by omega⟩
  show (integer lo hi name).read room (.number (.ofInt i)) = _
  unfold integer
  dsimp only
  rw [hvalue]
  exact if_pos h

theorem bounds_of_read {i : Int} {d : Document} (h : (integer lo hi name).read room d = .ok i) :
    lo ≤ i ∧ i ≤ hi := by
  unfold integer at h
  dsimp only at h
  split at h
  · split at h
    · split at h
      · cases h
        assumption
      · cases h
    · cases h
    · cases h
  · cases h

theorem survives_integer (hlo : -0x8000000000000000 ≤ lo) (hhi : hi ≤ 0xFFFFFFFFFFFFFFFF) :
    Survives n (integer lo hi name) (integer lo hi name) := by
  intro room d i _ hread _
  exact read_integer hlo hhi (bounds_of_read hread)

theorem survives_int64 : Survives n int64 int64 := survives_integer (by decide) (by decide)

theorem survives_natural {hi : Nat} (hhi : hi ≤ 0xFFFFFFFFFFFFFFFF) :
    Survives n (natural hi name) (natural hi name) := by
  intro room d i _ hread _
  obtain ⟨j, hj, rfl⟩ := map_eq_ok.mp hread
  have hbounds := bounds_of_read hj
  have hback : ((integer 0 hi name).read room (.ofJson (.int j.toNat))) = .ok (j.toNat : Int) :=
    read_integer (by decide) (by omega) (by omega)
  exact map_eq_ok.mpr ⟨_, hback, Int.toNat_natCast _⟩

/-- A number with a fraction is always written as one. -/
theorem survives_single : Survives n single single := fun _ _ _ _ _ hfree => nomatch hfree

theorem survives_variant [DecidableEq α] {names : List (String × α)} {name : α → String}
    (hnames : ∀ a, names.lookup (name a) = some a) :
    Survives n (variant names name) (variant names name) := by
  intro room d a _ _ _
  unfold variant
  dsimp only [Document.ofJson]
  rw [hnames]

/-! ## Optional values, lists and dictionaries -/

/-- A value that is not written as null can be told from no value. -/
theorem survives_option (hc : Survives n c later) (hnull : ∀ a, c.write a ≠ .null) :
    Survives n c.option later.option := by
  intro room d a hroom hread hfree
  cases a with
  | none => rfl
  | some a =>
    have hsome : c.read room d = .ok a := by
      unfold option at hread
      dsimp only at hread
      split at hread
      · cases hread
      · obtain ⟨b, hb, heq⟩ := map_eq_ok.mp hread
        rw [hb, Option.some.inj heq]
    have hback := hc hroom hsome hfree
    show (later.option).read room (.ofJson (c.write a)) = .ok (some a)
    have hdoc := Document.ofJson_ne_null hfree.legible (hnull a)
    unfold option
    dsimp only
    split
    · rename_i heq
      exact absurd heq hdoc
    · rw [hback]
      rfl

theorem of_readItems {ds : List Document} {as : List α} (h : readItems c room ds = .ok as) :
    ∀ a ∈ as, ∃ d, c.read room d = .ok a := by
  induction ds generalizing as with
  | nil =>
    cases h
    nofun
  | cons d ds ih =>
    obtain ⟨a, ha, h⟩ := bind_eq_ok.mp h
    obtain ⟨rest, hrest, h⟩ := bind_eq_ok.mp h
    cases h
    intro b hb
    rcases List.mem_cons.mp hb with rfl | hb
    · exact ⟨d, ha⟩
    · exact ih hrest b hb

theorem readItems_write {as : List α}
    (h : ∀ a ∈ as, later.read room (.ofJson (c.write a)) = .ok a) :
    readItems later room (Document.ofItems (as.map c.write)) = .ok as := by
  induction as with
  | nil => rfl
  | cons a as ih =>
    refine bind_eq_ok.mpr ⟨a, h a (List.mem_cons_self ..), bind_eq_ok.mpr ⟨as, ?_, rfl⟩⟩
    exact ih fun b hb => h b (List.mem_cons_of_mem _ hb)

/-- A list is read again if its items are. -/
theorem read_list {as : List α} (hroom : 2 ≤ room)
    (h : ∀ a ∈ as, later.read (room - 1) (.ofJson (c.write a)) = .ok a) :
    later.list.read room (.ofJson (c.list.write as)) = .ok as :=
  bind_eq_ok.mpr ⟨room - 1, enter_eq_ok.mpr ⟨hroom, rfl⟩,
    bind_eq_ok.mpr ⟨as, readItems_write h, rfl⟩⟩

theorem survives_list (hc : Survives n c later) : Survives (n + 1) c.list later.list := by
  intro room d as hroom hread hfree
  unfold list at hread
  dsimp only at hread
  split at hread
  · obtain ⟨inner, hinner, hread⟩ := bind_eq_ok.mp hread
    obtain ⟨hdeep, rfl⟩ := enter_eq_ok.mp hinner
    obtain ⟨bs, hbs, hread⟩ := bind_eq_ok.mp hread
    obtain ⟨-, rfl⟩ := closing_eq_ok.mp hread
    refine read_list hdeep fun a ha => ?_
    obtain ⟨d', hd'⟩ := of_readItems hbs a ha
    exact hc (by omega) hd' (hfree.of_arr _ (List.mem_map_of_mem ha))
  · cases hread

theorem of_readEntries {acc out : Dict α} {ms : List (Option String × Document)}
    (h : readEntries c room acc ms = .ok out)
    (hacc : ∀ e ∈ acc.entries, ∃ d, c.read room d = .ok e.2) :
    ∀ e ∈ out.entries, ∃ d, c.read room d = .ok e.2 := by
  induction ms generalizing acc with
  | nil =>
    cases h
    exact hacc
  | cons m ms ih =>
    obtain ⟨key | key, d⟩ := m
    · cases h
    · obtain ⟨a, ha, h⟩ := bind_eq_ok.mp h
      refine ih h fun e he => ?_
      rcases Dict.mem_insertEntry he with rfl | he
      · exact ⟨d, ha⟩
      · exact hacc e he

theorem readEntries_write {acc out : Dict α} {es : List (String × α)}
    (h : ∀ e ∈ es, later.read room (.ofJson (c.write e.2)) = .ok e.2)
    (hout : out.entries = acc.entries ++ es) :
    readEntries later room acc (Document.ofMembers (es.map fun e => (e.1, c.write e.2))) =
      .ok out := by
  induction es generalizing acc with
  | nil => exact congrArg _ (Dict.ext (by rw [hout, List.append_nil]))
  | cons e es ih =>
    obtain ⟨key, a⟩ := e
    -- the entries stand in the order of their keys, so each is put behind those before it
    have horder : ((acc.entries ++ (key, a) :: es).map Prod.fst).Pairwise (· < ·) := by
      rw [← hout]
      exact out.increasing
    have hput : (acc.insert key a).entries = acc.entries ++ [(key, a)] :=
      Dict.insertEntry_of_increasing horder
    refine bind_eq_ok.mpr ⟨a, h _ (List.mem_cons_self ..), ?_⟩
    refine ih (fun e he => h e (List.mem_cons_of_mem _ he)) ?_
    rw [hput, hout, List.append_assoc]
    rfl

/-- A dictionary is read again if its values are. -/
theorem read_dict {a : Dict α} (hroom : 2 ≤ room)
    (h : ∀ e ∈ a.entries, later.read (room - 1) (.ofJson (c.write e.2)) = .ok e.2) :
    later.dict.read room (.ofJson (c.dict.write a)) = .ok a :=
  bind_eq_ok.mpr ⟨room - 1, enter_eq_ok.mpr ⟨hroom, rfl⟩,
    bind_eq_ok.mpr ⟨a, readEntries_write h rfl, rfl⟩⟩

theorem survives_dict (hc : Survives n c later) : Survives (n + 1) c.dict later.dict := by
  intro room d a hroom hread hfree
  unfold dict at hread
  dsimp only at hread
  split at hread
  · obtain ⟨inner, hinner, hread⟩ := bind_eq_ok.mp hread
    obtain ⟨hdeep, rfl⟩ := enter_eq_ok.mp hinner
    obtain ⟨b, hb, hread⟩ := bind_eq_ok.mp hread
    obtain ⟨-, rfl⟩ := closing_eq_ok.mp hread
    refine read_dict hdeep fun e he => ?_
    obtain ⟨d', hd'⟩ := of_readEntries hb (fun e he => nomatch he) e he
    exact hc (by omega) hd' (hfree.of_obj _ (List.mem_map_of_mem he))
  · cases hread

/-! ## Any value -/

/-- What a value of a text is read as, it is read as again. -/
def Settled (room : Nat) (j : Json) : Prop := j.FloatFree → readAny room (.ofJson j) = .ok j

theorem readAnyItems_settled {vs : List Json} (hvs : ∀ v ∈ vs, Settled room v)
    (hfree : ∀ v ∈ vs, v.FloatFree) :
    readAnyItems room (Document.ofItems vs) = .ok vs := by
  induction vs with
  | nil => rfl
  | cons v vs ih =>
    have hv := hvs v (List.mem_cons_self ..) (hfree v (List.mem_cons_self ..))
    have hrest := ih (fun w hw => hvs w (List.mem_cons_of_mem _ hw))
      (fun w hw => hfree w (List.mem_cons_of_mem _ hw))
    exact bind_eq_ok.mpr ⟨v, hv, bind_eq_ok.mpr ⟨vs, hrest, rfl⟩⟩

/-- Members that stand in the order of their names are read in that order. -/
theorem readAnyMembers_settled (acc : List (String × Json)) {out : List (String × Json)}
    (hout : ∀ e ∈ out, Settled room e.2) (hfree : ∀ e ∈ out, e.2.FloatFree)
    (horder : ((acc ++ out).map Prod.fst).Pairwise (· < ·)) :
    readAnyMembers room acc (Document.ofMembers out) = .ok (acc ++ out) := by
  induction out generalizing acc with
  | nil =>
    rw [List.append_nil]
    rfl
  | cons e out ih =>
    obtain ⟨key, v⟩ := e
    have hv := hout _ (List.mem_cons_self ..) (hfree _ (List.mem_cons_self ..))
    have hput : putMember key v acc = acc ++ [(key, v)] := Dict.insertEntry_of_increasing horder
    have hsplit : acc ++ (key, v) :: out = acc ++ [(key, v)] ++ out := by simp
    refine bind_eq_ok.mpr ⟨v, hv, ?_⟩
    rw [hput, hsplit]
    refine ih _ (fun e he => hout e (List.mem_cons_of_mem _ he))
      (fun e he => hfree e (List.mem_cons_of_mem _ he)) ?_
    rwa [← hsplit]

theorem settled_of_number {m : Numeral} {j : Json} (h : readAny room (.number m) = .ok j) :
    Settled room j := by
  intro hfree
  unfold readAny at h
  split at h
  · rename_i i hvalue
    cases h
    have hback := Numeral.value?_ofInt (Numeral.fits_of_value? hvalue)
    show readAny room (.number (.ofInt i)) = _
    rw [readAny, hback]
  · cases h
    cases hfree
  · cases h

mutual

/-- **Any value that is read settles**: its numbers fit, and the members of its objects stand in
order. -/
theorem settled_of_readAny (d : Document) {room : Nat} {j : Json} (h : readAny room d = .ok j) :
    Settled room j := by
  intro hfree
  match d with
  | .null => cases h; rfl
  | .bool b => cases h; rfl
  | .number m => exact settled_of_number h hfree
  | .str (some s) => cases h; rfl
  | .str none => cases h
  | .arr items closed =>
    obtain ⟨inner, hinner, h⟩ := bind_eq_ok.mp h
    obtain ⟨vs, hvs, h⟩ := bind_eq_ok.mp h
    obtain ⟨-, rfl⟩ := closing_eq_ok.mp h
    have hback := readAnyItems_settled (settled_of_readAnyItems items hvs) hfree.of_arr
    exact bind_eq_ok.mpr ⟨inner, hinner, bind_eq_ok.mpr ⟨vs, hback, rfl⟩⟩
  | .obj members ending =>
    obtain ⟨inner, hinner, h⟩ := bind_eq_ok.mp h
    obtain ⟨ms, hms, h⟩ := bind_eq_ok.mp h
    obtain ⟨-, rfl⟩ := closing_eq_ok.mp h
    obtain ⟨hout, horder⟩ := settled_of_readAnyMembers members hms (fun _ he => nomatch he) .nil
    have hback := readAnyMembers_settled [] hout hfree.of_obj horder
    exact bind_eq_ok.mpr ⟨inner, hinner, bind_eq_ok.mpr ⟨ms, hback, rfl⟩⟩
  | .broken => cases h

theorem settled_of_readAnyItems (ds : List Document) {room : Nat} {vs : List Json}
    (h : readAnyItems room ds = .ok vs) : ∀ v ∈ vs, Settled room v := by
  match ds with
  | [] =>
    cases h
    nofun
  | d :: ds =>
    obtain ⟨v, hv, h⟩ := bind_eq_ok.mp h
    obtain ⟨rest, hrest, h⟩ := bind_eq_ok.mp h
    cases h
    intro w hw
    rcases List.mem_cons.mp hw with rfl | hw
    · exact settled_of_readAny d hv
    · exact settled_of_readAnyItems ds hrest w hw

theorem settled_of_readAnyMembers (ms : List (Option String × Document)) {room : Nat}
    {acc out : List (String × Json)} (h : readAnyMembers room acc ms = .ok out)
    (hacc : ∀ e ∈ acc, Settled room e.2) (horder : (acc.map Prod.fst).Pairwise (· < ·)) :
    (∀ e ∈ out, Settled room e.2) ∧ (out.map Prod.fst).Pairwise (· < ·) := by
  match ms with
  | [] =>
    cases h
    exact ⟨hacc, horder⟩
  | (none, d) :: ms => cases h
  | (some key, d) :: ms =>
    obtain ⟨v, hv, h⟩ := bind_eq_ok.mp h
    refine settled_of_readAnyMembers ms h (fun e he => ?_)
      (Dict.insertEntry_increasing key v acc horder)
    rcases Dict.mem_insertEntry he with rfl | he
    · exact settled_of_readAny d hv
    · exact hacc e he

end

theorem survives_any : Survives n any any := fun _ d _ _ hread hfree =>
  settled_of_readAny d hread hfree

/-! ## Texts -/

/-- **A value is read from its text** as it is from its document. -/
theorem decode_render {j : Json} {a : α} (hlegible : j.Legible)
    (h : c.read fullRoom (.ofJson j) = .ok a) : c.decode j.render = .ok a := by
  unfold decode
  rw [Document.ofText_render hlegible]
  exact bind_eq_ok.mpr ⟨a, h, rfl⟩

theorem decode_pretty {j : Json} {a : α} (hlegible : j.Legible)
    (h : c.read fullRoom (.ofJson j) = .ok a) : c.decode j.pretty = .ok a := by
  unfold decode
  rw [Document.ofText_pretty hlegible]
  exact bind_eq_ok.mpr ⟨a, h, rfl⟩

/-- What was read from a text is read again from the text it is written as. -/
theorem Survives.decode_encode (hs : Survives n c later) (hn : n ≤ fullRoom) {text : String} {a : α}
    (h : c.decode text = .ok a) (hfree : (c.write a).FloatFree) :
    later.decode (c.encode a) = .ok a := by
  obtain ⟨b, hb, hclosed⟩ := bind_eq_ok.mp h
  obtain ⟨-, rfl⟩ := closing_eq_ok.mp hclosed
  exact decode_render hfree.legible (hs hn hb hfree)

/-- **A list of texts is read back from the text it is written as**, whatever characters the texts
hold. -/
theorem decode_encode_strings (ss : List String) :
    (list string).decode ((list string).encode ss) = .ok ss := by
  refine decode_render (.arr fun v hv => ?_) (read_list (by decide) fun _ _ => rfl)
  obtain ⟨s, -, rfl⟩ := List.mem_map.mp hv
  exact .str s

end Codec
end OfflineChat
