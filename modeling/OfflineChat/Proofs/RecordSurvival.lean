import OfflineChat.Json.Record
import OfflineChat.Proofs.CodecSurvival

/-! # Records survive being written

A record that was read got each of its values from a text, or from the default of
its field, which some text would give as well (`Codec.gives_of_read_record`).  It
is written as an object with its fields in order, those left out that read as the
same without being there.  So the object is met field by field: what is written for
one field is passed on by the fields before it (`Codec.readOpenMembers_cons`), and
a record is read again if each of its values returns to its field
(`Codec.read_record_write`).  So it is where each kind of value survives
(`Codec.survives_record`).

An open record also keeps the members it has no field for
(`Codec.keepsRest_openRecord`), and they are written behind the fields.
-/
namespace OfflineChat

/-! ## Fields -/

/-- The value of a field is one that some text gives. -/
def Field.Gives {α : Type} (room : Nat) (f : Field Codec α) (a : α) : Prop :=
  ∃ d, f.kind.read room d = .ok a

/-- What a field has read, with room `n` at least, `later` reads again, be it written or left
out. -/
structure Field.Survives {α : Type} (n : Nat) (f later : Field Codec α) : Prop where
  name : later.name = f.name
  kind : f.kind.Survives n later.kind
  /-- A default is a value that some text gives. -/
  default : ∀ ⦃room a⦄, n ≤ room → f.absent = some a → f.Gives room a
  /-- A value that is left out is the default. -/
  omitted : ∀ ⦃a⦄, f.omits a = true → later.absent = some a

namespace Field

open Codec (Survives)

variable {α : Type} {n : Nat} {c later : Codec α} {name : String} {value value' : α}
  {omits : α → Bool}

theorem survives_required (h : c.Survives n later) :
    (required name c).Survives n (required name later) where
  name := rfl
  kind := h
  default := nofun
  omitted := nofun

theorem survives_defaulted (h : c.Survives n later)
    (hvalue : ∀ room, n ≤ room → ∃ d, c.read room d = .ok value) :
    (defaulted name c value).Survives n (defaulted name later value') where
  name := rfl
  kind := h
  default room a hroom ha := by
    cases ha
    exact hvalue room hroom
  omitted := nofun

theorem survives_omitted (h : c.Survives n later)
    (hvalue : ∀ room, n ≤ room → ∃ d, c.read room d = .ok value)
    (homits : ∀ a, omits a = true → a = value) :
    (omitted name c value omits).Survives n (omitted name later value omits) where
  name := rfl
  kind := h
  default room a hroom ha := by
    cases ha
    exact hvalue room hroom
  omitted a ha := congrArg some (homits a ha).symm

end Field

namespace Fields

variable {ts : List Type} {n room : Nat}

/-- Every value is one that some text gives its field. -/
def Gives (room : Nat) : {ts : List Type} → Fields Codec ts → Values ts → Prop
  | _, .nil, _ => True
  | _, .cons f rest, (a, as) => f.Gives room a ∧ rest.Gives room as

/-- Every value met so far is one that some text gives its field. -/
def Met (room : Nat) : {ts : List Type} → Fields Codec ts → Slots ts → Prop
  | _, .nil, _ => True
  | _, .cons f rest, (slot, slots) => (∀ a ∈ slot, f.Gives room a) ∧ rest.Met room slots

/-- What each field has read, `later` reads again; no two fields have one name. -/
inductive Survive (n : Nat) : {ts : List Type} → Fields Codec ts → Fields Codec ts → Prop
  | nil : Survive n .nil .nil
  | cons {α : Type} {ts : List Type} {f f' : Field Codec α} {rest rest' : Fields Codec ts}
      (field : f.Survives n f') (apart : rest.has f.name = false) (fields : Survive n rest rest') :
      Survive n (.cons f rest) (.cons f' rest')

/-- Each value returns to its field of `later`: it is read from where it is written, or it is left
out and the default; no two fields have one name. -/
inductive Return (room : Nat) :
    {ts : List Type} → Fields Codec ts → Fields Codec ts → Values ts → Prop
  | nil {as : Values []} : Return room .nil .nil as
  | cons {α : Type} {ts : List Type} {f f' : Field Codec α} {rest rest' : Fields Codec ts} {a : α}
      {as : Values ts} (name : f'.name = f.name) (apart : rest.has f.name = false)
      (written : f.omits a = false → f'.kind.read room (.ofJson (f.kind.write a)) = .ok a)
      (omitted : f.omits a = true → f'.absent = some a) (fields : Return room rest rest' as) :
      Return room (.cons f rest) (.cons f' rest') (a, as)

theorem Return.has {fields later : Fields Codec ts} {as : Values ts}
    (h : fields.Return room later as) (key : String) : later.has key = fields.has key := by
  induction h with
  | nil => rfl
  | cons name _ _ _ _ ih => rw [Fields.has, Fields.has, name, ih]

theorem met_unmet (fields : Fields Codec ts) : fields.Met room (unmet ts) := by
  induction fields with
  | nil => exact trivial
  | cons f rest ih => exact ⟨nofun, ih⟩

/-! ## Reading a record -/

/-- A member of another name is left to the fields behind. -/
theorem meet_cons_of_ne {α : Type} {ε : Type} {f : Field Codec α} (rest : Fields Codec ts)
    {key : String} (twice : ε) (read : {β : Type} → Codec β → Except ε β) (slot : Option α)
    (slots : Slots ts) (h : f.name ≠ key) :
    meet key twice read (.cons f rest) (slot, slots) =
      (meet key twice read rest slots).map fun r => r.map fun s => ((slot, s) : Slots (α :: ts)) :=
  if_neg h

theorem meet_eq_none_iff {ε : Type} {fields : Fields Codec ts} {key : String} {twice : ε}
    {read : {β : Type} → Codec β → Except ε β} {slots : Slots ts} :
    meet key twice read fields slots = none ↔ fields.has key = false := by
  induction fields with
  | nil => exact ⟨fun _ => rfl, fun _ => rfl⟩
  | cons f rest ih =>
    obtain ⟨slot, slots⟩ := slots
    by_cases hkey : f.name = key
    · simp [meet, has, hkey]
    · have hhas : (cons f rest).has key = rest.has key := by simp [has, hkey]
      rw [meet_cons_of_ne _ _ _ _ _ hkey, hhas]
      exact Option.map_eq_none_iff.trans ih

/-- **A member that is met gives a value to the field of its name**, and to no other. -/
theorem meet_cons_cases {α : Type} {f : Field Codec α} {rest : Fields Codec ts} {key : String}
    {twice : Reject} {d : Document} {slot : Option α} {slots : Slots ts} {slots' : Slots (α :: ts)}
    (h : (cons f rest).meet key twice (fun c => c.read room d) (slot, slots) = some (.ok slots')) :
    (∃ a, f.kind.read room d = .ok a ∧ slots' = (some a, slots)) ∨
      ∃ s, rest.meet key twice (fun c => c.read room d) slots = some (.ok s) ∧
        slots' = (slot, s) := by
  by_cases hkey : f.name = key
  · left
    cases slot with
    | some a =>
      have hread : Except.error twice = .ok slots' :=
        Option.some.inj ((if_pos hkey).symm.trans h)
      cases hread
    | none =>
      have hread : (f.kind.read room d).map (fun a => (some a, slots)) = .ok slots' :=
        Option.some.inj ((if_pos hkey).symm.trans h)
      obtain ⟨a, ha, heq⟩ := Codec.map_eq_ok.mp hread
      exact ⟨a, ha, heq.symm⟩
  · right
    rw [meet_cons_of_ne _ _ _ _ _ hkey] at h
    obtain ⟨r, hr, hmap⟩ := Option.map_eq_some_iff.mp h
    obtain ⟨s, rfl, heq⟩ := Codec.map_eq_ok.mp hmap
    exact ⟨s, hr, heq.symm⟩

theorem Met.meet {fields : Fields Codec ts} {key : String} {twice : Reject} {d : Document}
    {slots slots' : Slots ts} (h : fields.Met room slots)
    (hmeet : fields.meet key twice (fun c => c.read room d) slots = some (.ok slots')) :
    fields.Met room slots' := by
  induction fields with
  | nil => cases hmeet
  | cons f rest ih =>
    obtain ⟨slot, slots⟩ := slots
    obtain ⟨a, ha, rfl⟩ | ⟨s, hs, rfl⟩ := meet_cons_cases hmeet
    · refine ⟨fun b hb => ?_, h.2⟩
      cases hb
      exact ⟨d, ha⟩
    · exact ⟨h.1, ih h.2 hs⟩

theorem settle_cons {α : Type} (f : Field Codec α) (rest : Fields Codec ts) (slot : Option α)
    (slots : Slots ts) :
    settle (.cons f rest) (slot, slots) =
      (match slot with
        | some a => .ok a
        | none => f.missing (.missingField f.name)) >>= fun a =>
      rest.settle slots >>= fun as => .ok ((a, as) : Values (α :: ts)) := by
  cases slot <;> rfl

theorem gives_of_missing {α : Type} {f : Field Codec α} {reason : Reject} {a : α}
    (hdefault : ∀ a, f.absent = some a → f.Gives room a) (h : f.missing reason = .ok a) :
    f.Gives room a := by
  unfold Field.missing at h
  split at h
  · rename_i habsent
    cases h
    exact hdefault a habsent
  · cases h

theorem gives_of_beyond {α : Type} {f : Field Codec α} {reason : Reject} {a : α}
    (hdefault : ∀ a, f.absent = some a → f.Gives room a) (h : f.beyond reason = .ok a) :
    f.Gives room a := by
  unfold Field.beyond at h
  split at h
  · exact gives_of_missing hdefault h
  · cases h

/-- Once no member is left, each value was met or is the default. -/
theorem Survive.gives_of_settle {fields later : Fields Codec ts} (h : fields.Survive n later)
    (hroom : n ≤ room) {slots : Slots ts} {as : Values ts} (hmet : fields.Met room slots)
    (hsettle : fields.settle slots = .ok as) : fields.Gives room as := by
  induction h with
  | nil => exact trivial
  | @cons α ts f f' rest rest' field apart fields ih =>
    obtain ⟨slot, slots⟩ := slots
    rw [settle_cons] at hsettle
    obtain ⟨a, ha, hsettle⟩ := Codec.bind_eq_ok.mp hsettle
    obtain ⟨as, has, hsettle⟩ := Codec.bind_eq_ok.mp hsettle
    cases hsettle
    refine ⟨?_, ih hmet.2 has⟩
    cases slot with
    | some b =>
      cases ha
      exact hmet.1 a rfl
    | none => exact gives_of_missing (fun a => field.default hroom) ha

end Fields

namespace Codec

variable {ts : List Type} {α : Type} {n room : Nat} {name : String} {fields later : Fields Codec ts}

theorem met_of_readMembers {slots slots' : Slots ts} {ms : List (Option String × Document)}
    (h : readMembers fields room slots ms = .ok slots') (hmet : fields.Met room slots) :
    fields.Met room slots' := by
  induction ms generalizing slots with
  | nil =>
    cases h
    exact hmet
  | cons m ms ih =>
    obtain ⟨key | key, d⟩ := m
    · cases h
    · unfold readMembers at h
      split at h
      · rename_i r hmeet
        obtain ⟨s, rfl, h⟩ := bind_eq_ok.mp h
        exact ih h (hmet.meet hmeet)
      · split at h
        · exact ih h hmet
        · cases h

theorem gives_of_readPositions (hs : fields.Survive n later) (hroom : n ≤ room)
    {expected : String} {k : Nat} {ds rest : List Document} {as : Values ts}
    (h : readPositions room expected k fields ds = .ok (as, rest)) : fields.Gives room as := by
  induction hs generalizing k ds with
  | nil => exact trivial
  | @cons α ts f f' fields fields' field apart _ ih =>
    cases ds with
    | nil =>
      obtain ⟨a, ha, h⟩ := bind_eq_ok.mp h
      obtain ⟨r, hr, h⟩ := bind_eq_ok.mp h
      cases h
      exact ⟨Fields.gives_of_beyond (fun a => field.default hroom) ha, ih hr⟩
    | cons d ds =>
      obtain ⟨a, ha, h⟩ := bind_eq_ok.mp h
      obtain ⟨r, hr, h⟩ := bind_eq_ok.mp h
      cases h
      exact ⟨⟨d, ha⟩, ih hr⟩

variable {build : Values ts → α} {split : α → Values ts}

/-- **A record that is read is built of values that some texts give**, as an object or by
position. -/
theorem gives_of_read_record (hs : fields.Survive n later) (hroom : n + 1 ≤ room) {d : Document}
    {a : α} (h : (record name fields build split).read room d = .ok a) :
    2 ≤ room ∧ ∃ as, fields.Gives (room - 1) as ∧ build as = a := by
  unfold record at h
  dsimp only at h
  split at h
  · obtain ⟨inner, hinner, h⟩ := bind_eq_ok.mp h
    obtain ⟨hdeep, rfl⟩ := enter_eq_ok.mp hinner
    obtain ⟨slots, hslots, h⟩ := bind_eq_ok.mp h
    split at h
    · obtain ⟨as, has, rfl⟩ := map_eq_ok.mp h
      have hmet := met_of_readMembers hslots fields.met_unmet
      exact ⟨hdeep, as, hs.gives_of_settle (by omega) hmet has, rfl⟩
    · cases h
  · obtain ⟨inner, hinner, h⟩ := bind_eq_ok.mp h
    obtain ⟨hdeep, rfl⟩ := enter_eq_ok.mp hinner
    obtain ⟨r, hr, h⟩ := bind_eq_ok.mp h
    obtain ⟨-, rfl⟩ := closing_eq_ok.mp h
    exact ⟨hdeep, r.1, gives_of_readPositions hs (by omega) hr, rfl⟩
  · cases h

/-! ## Reading what was written -/

theorem writeMembers_cons {β : Type} (f : Field Codec β) (rest : Fields Codec ts) (a : β)
    (as : Values ts) :
    writeMembers (.cons f rest) (a, as) =
      if f.omits a then writeMembers rest as
      else (f.name, f.kind.write a) :: writeMembers rest as := rfl

theorem has_of_mem_writeMembers {as : Values ts} {m : String × Json}
    (h : m ∈ writeMembers fields as) : fields.has m.1 = true := by
  induction fields with
  | nil => cases h
  | cons f rest ih =>
    obtain ⟨a, as⟩ := as
    have hrest (hm : m ∈ writeMembers rest as) : (Fields.cons f rest).has m.1 = true := by
      simp [Fields.has, ih hm]
    rw [writeMembers_cons] at h
    split at h
    · exact hrest h
    · rcases List.mem_cons.mp h with rfl | h
      · simp [Fields.has]
      · exact hrest h

theorem readOpenMembers_step (fields : Fields Codec ts) (slots : Slots ts) (extra : Dict Json)
    (key : String) (d : Document) (ms : List (Option String × Document)) :
    readOpenMembers fields room slots extra ((some key, d) :: ms) =
      match fields.meet key (.duplicateField key) (fun c => c.read room d) slots with
      | some r => r >>= fun slots => readOpenMembers fields room slots extra ms
      | none => readAny room d >>= fun v =>
        readOpenMembers fields room slots (extra.insert key v) ms := rfl

/-- Members of other names are read by the fields behind. -/
theorem readOpenMembers_cons {β : Type} {f : Field Codec β} {rest : Fields Codec ts}
    {ms : List (Option String × Document)} (h : ∀ m ∈ ms, m.1 ≠ some f.name) (slot : Option β)
    (slots : Slots ts) (extra : Dict Json) :
    readOpenMembers (.cons f rest) room (slot, slots) extra ms =
      (readOpenMembers rest room slots extra ms).map
        fun r => (((slot, r.1) : Slots (β :: ts)), r.2) := by
  induction ms generalizing slots extra with
  | nil => rfl
  | cons m ms ih =>
    obtain ⟨key | key, d⟩ := m
    · rfl
    · have hkey : f.name ≠ key := fun hkey => h _ (List.mem_cons_self ..) (congrArg some hkey.symm)
      have hrest := ih fun m hm => h m (List.mem_cons_of_mem _ hm)
      have hmeet := Fields.meet_cons_of_ne rest (Reject.duplicateField key)
        (fun c => c.read room d) slot slots hkey
      refine (readOpenMembers_step (.cons f rest) _ extra key d ms).trans ?_
      rw [readOpenMembers_step, hmeet]
      cases rest.meet key (.duplicateField key) (fun c => c.read room d) slots with
      | none =>
        cases readAny room d with
        | error e => rfl
        | ok v => exact hrest slots (extra.insert key v)
      | some r =>
        cases r with
        | error e => rfl
        | ok s => exact hrest s extra

/-- Without fields all members are kept. -/
theorem readOpenMembers_nil {slots : Slots []} {extra : Dict Json}
    {ms : List (Option String × Document)} :
    readOpenMembers .nil room slots extra ms = (readEntries any room extra ms).map (slots, ·) := by
  induction ms generalizing extra with
  | nil => rfl
  | cons m ms ih =>
    obtain ⟨key | key, d⟩ := m
    · rfl
    · show (readAny room d >>= fun v => readOpenMembers .nil room slots (extra.insert key v) ms) =
        (readAny room d >>= fun v => readEntries any room (extra.insert key v) ms).map (slots, ·)
      cases readAny room d with
      | error e => rfl
      | ok v => exact ih

/-- Members that have a field are read alike by open records and others. -/
theorem readOpenMembers_of_has {slots : Slots ts} {extra : Dict Json}
    {ms : List (Option String × Document)}
    (h : ∀ m ∈ ms, ∃ key, m.1 = some key ∧ fields.has key = true) :
    readOpenMembers fields room slots extra ms =
      (readMembers fields room slots ms).map (·, extra) := by
  induction ms generalizing slots with
  | nil => rfl
  | cons m ms ih =>
    obtain ⟨name, d⟩ := m
    obtain ⟨key, rfl, hkey⟩ := h _ (List.mem_cons_self ..)
    unfold readOpenMembers readMembers
    cases hmeet : fields.meet key (.duplicateField key) (fun c => c.read room d) slots with
    | none =>
      rw [Fields.meet_eq_none_iff.mp hmeet] at hkey
      cases hkey
    | some r =>
      cases r with
      | error e => rfl
      | ok s => exact ih fun m hm => h m (List.mem_cons_of_mem _ hm)

end Codec

/-- What is met of a written record: its values, but for those left out. -/
def Fields.written : {ts : List Type} → Fields Codec ts → Values ts → Slots ts
  | _, .nil, _ => ()
  | _, .cons f rest, (a, as) => (if f.omits a then none else some a, rest.written as)

namespace Codec

variable {ts : List Type} {α : Type} {n room : Nat} {name : String} {fields later : Fields Codec ts}

/-- What survives returns. -/
theorem return_of_survive (hs : fields.Survive n later) (hroom : n ≤ room) {as : Values ts}
    (hgives : fields.Gives room as) (hfree : ∀ m ∈ writeMembers fields as, m.2.FloatFree) :
    fields.Return room later as := by
  induction hs with
  | nil => exact .nil
  | @cons β ts f f' rest rest' field apart _ ih =>
    obtain ⟨a, as⟩ := as
    obtain ⟨d, hd⟩ := hgives.1
    rw [writeMembers_cons] at hfree
    by_cases homits : f.omits a = true
    · rw [if_pos homits] at hfree
      refine .cons field.name apart (fun hkept => ?_) (fun h => field.omitted h)
        (ih hgives.2 hfree)
      rw [homits] at hkept
      cases hkept
    · rw [if_neg homits] at hfree
      refine .cons field.name apart (fun _ => ?_) (fun h => field.omitted h)
        (ih hgives.2 fun m hm => hfree m (List.mem_cons_of_mem _ hm))
      exact field.kind hroom hd (hfree _ (List.mem_cons_self ..))

/-- **The members of a written record are met again**, each by its field, and those behind them are
kept. -/
theorem readOpenMembers_write {as : Values ts} (h : fields.Return room later as)
    (extra : Dict Json)
    (hextra : ∀ e ∈ extra.entries, fields.has e.1 = false ∧ any.read room (.ofJson e.2) = .ok e.2) :
    readOpenMembers later room (Fields.unmet ts) .empty
      (Document.ofMembers (writeMembers fields as ++ extra.entries)) =
      .ok (fields.written as, extra) := by
  induction h with
  | nil =>
    have hentries : readEntries any room .empty
        (Document.ofMembers (extra.entries.map fun e => (e.1, any.write e.2))) = .ok extra :=
      readEntries_write (fun e he => (hextra e he).2) rfl
    rw [readOpenMembers_nil]
    show (readEntries any room .empty (Document.ofMembers extra.entries)).map _ = _
    have hmap : extra.entries.map (fun e => (e.1, any.write e.2)) = extra.entries := List.map_id' _
    rw [hmap] at hentries
    rw [hentries]
    rfl
  | @cons β ts f f' rest rest' a as name apart hwritten _ _ ih =>
    have hrest : ∀ m ∈ Document.ofMembers (writeMembers rest as ++ extra.entries),
        m.1 ≠ some f'.name := by
      intro m hm hname
      rw [Document.ofMembers_eq_map] at hm
      obtain ⟨e, he, rfl⟩ := List.mem_map.mp hm
      have hkey : e.1 = f.name := (Option.some.inj hname).trans name
      rcases List.mem_append.mp he with he | he
      · have hhas := has_of_mem_writeMembers he
        rw [hkey, apart] at hhas
        cases hhas
      · have hhas := (hextra e he).1
        simp [Fields.has, hkey] at hhas
    have hread := ih fun e he => by
      obtain ⟨hhas, hany⟩ := hextra e he
      exact ⟨(Bool.or_eq_false_iff.mp hhas).2, hany⟩
    have hslots : (Fields.cons f rest).written (a, as) =
        (if f.omits a then none else some a, rest.written as) := rfl
    rw [writeMembers_cons, hslots]
    by_cases homits : f.omits a = true
    · rw [if_pos homits, if_pos homits]
      refine (readOpenMembers_cons hrest none _ _).trans ?_
      rw [hread]
      rfl
    · rw [if_neg homits, if_neg homits]
      have hmeet : (Fields.cons f' rest').meet f.name (Reject.duplicateField f.name)
          (fun c => c.read room (.ofJson (f.kind.write a))) (Fields.unmet (β :: ts)) =
          some (.ok ((some a, Fields.unmet ts) : Slots (β :: ts))) := by
        refine (if_pos name).trans (congrArg some ?_)
        show (f'.kind.read room _).map _ = _
        rw [hwritten (Bool.not_eq_true _ ▸ homits)]
        rfl
      refine (readOpenMembers_step (.cons f' rest') _ .empty f.name _ _).trans ?_
      rw [hmeet]
      refine (readOpenMembers_cons hrest (some a) _ _).trans ?_
      rw [hread]
      rfl

/-- Once all are met, the values are as they were. -/
theorem settle_written {as : Values ts} (h : fields.Return room later as) :
    later.settle (fields.written as) = .ok as := by
  induction h with
  | nil => rfl
  | @cons β ts f f' rest rest' a as _ _ _ homitted _ ih =>
    have hslot : (match (if f.omits a then none else some a) with
        | some a => .ok a
        | none => f'.missing (.missingField f'.name)) = Except.ok a := by
      by_cases homits : f.omits a = true
      · rw [if_pos homits]
        show f'.missing _ = _
        rw [Field.missing, homitted homits]
      · rw [if_neg homits]
    refine (Fields.settle_cons f' rest' _ _).trans ?_
    rw [hslot]
    exact bind_eq_ok.mpr ⟨a, rfl, bind_eq_ok.mpr ⟨as, ih, rfl⟩⟩

variable {build : Values ts → α} {split : α → Values ts}

/-- **A written record is read again** if its values return to their fields. -/
theorem read_record_write {a : α} (hdeep : 2 ≤ room)
    (h : fields.Return (room - 1) later (split a)) (hbuild : build (split a) = a) :
    (record name later build split).read room
      (.ofJson ((record name fields build split).write a)) = .ok a := by
  have hopen := readOpenMembers_write h .empty nofun
  have hknown : ∀ m ∈ Document.ofMembers (writeMembers fields (split a)),
      ∃ key, m.1 = some key ∧ later.has key = true := by
    intro m hm
    rw [Document.ofMembers_eq_map] at hm
    obtain ⟨e, he, rfl⟩ := List.mem_map.mp hm
    exact ⟨e.1, rfl, (h.has e.1).trans (has_of_mem_writeMembers he)⟩
  have hempty : writeMembers fields (split a) ++ (Dict.empty : Dict Json).entries =
      writeMembers fields (split a) := List.append_nil _
  rw [hempty, readOpenMembers_of_has hknown] at hopen
  obtain ⟨slots, hslots, heq⟩ := map_eq_ok.mp hopen
  obtain rfl : slots = fields.written (split a) := congrArg Prod.fst heq
  show (record name later build split).read room
    (.obj (Document.ofMembers (writeMembers fields (split a))) .closed) = _
  refine bind_eq_ok.mpr ⟨room - 1, enter_eq_ok.mpr ⟨hdeep, rfl⟩, bind_eq_ok.mpr ⟨_, hslots, ?_⟩⟩
  exact map_eq_ok.mpr ⟨split a, settle_written h, hbuild⟩

/-- **Records survive** where their fields do. -/
theorem survives_record (hs : fields.Survive n later) (hbuild : ∀ as, split (build as) = as) :
    Survives (n + 1) (record name fields build split) (record name later build split) := by
  intro room d a hroom hread hfree
  obtain ⟨hdeep, as, hgives, rfl⟩ := gives_of_read_record hs hroom hread
  have hmembers : ∀ m ∈ writeMembers fields as, m.2.FloatFree := by
    have hobj := hfree.of_obj
    rwa [hbuild] at hobj
  have hreturn := return_of_survive hs (show n ≤ room - 1 by omega) hgives hmembers
  refine read_record_write hdeep ?_ (congrArg build (hbuild as))
  rwa [hbuild]

/-! ## Open records -/

/-- What an open record keeps: members of no field, each of a value that some text gives. -/
def KeepsOther (fields : Fields Codec ts) (room : Nat) (extra : Dict Json) : Prop :=
  ∀ e ∈ extra.entries, fields.has e.1 = false ∧ ∃ d, readAny room d = .ok e.2

theorem keepsOther_of_readOpenMembers {slots slots' : Slots ts} {extra extra' : Dict Json}
    {ms : List (Option String × Document)}
    (h : readOpenMembers fields room slots extra ms = .ok (slots', extra'))
    (hmet : fields.Met room slots) (hextra : KeepsOther fields room extra) :
    fields.Met room slots' ∧ KeepsOther fields room extra' := by
  induction ms generalizing slots extra with
  | nil =>
    cases h
    exact ⟨hmet, hextra⟩
  | cons m ms ih =>
    obtain ⟨key | key, d⟩ := m
    · cases h
    · rw [readOpenMembers_step] at h
      split at h
      · rename_i r hmeet
        obtain ⟨s, rfl, h⟩ := bind_eq_ok.mp h
        exact ih h (hmet.meet hmeet) hextra
      · rename_i hmeet
        obtain ⟨v, hv, h⟩ := bind_eq_ok.mp h
        refine ih h hmet fun e he => ?_
        rcases Dict.mem_insertEntry he with rfl | he
        · exact ⟨Fields.meet_eq_none_iff.mp hmeet, d, hv⟩
        · exact hextra e he

variable {build : Values ts → Dict Json → α} {split : α → Values ts × Dict Json}

/-- An open record that is read is an object; the rest of it is kept. -/
theorem gives_of_read_openRecord (hs : fields.Survive n later) (hroom : n + 1 ≤ room)
    {d : Document} {a : α} (h : (openRecord name fields build split).read room d = .ok a) :
    2 ≤ room ∧ ∃ as extra, fields.Gives (room - 1) as ∧ KeepsOther fields (room - 1) extra ∧
      build as extra = a := by
  unfold openRecord at h
  dsimp only at h
  split at h
  · obtain ⟨inner, hinner, h⟩ := bind_eq_ok.mp h
    obtain ⟨hdeep, rfl⟩ := enter_eq_ok.mp hinner
    obtain ⟨⟨slots, extra⟩, hslots, h⟩ := bind_eq_ok.mp h
    dsimp only at h
    split at h
    · obtain ⟨as, has, rfl⟩ := map_eq_ok.mp h
      obtain ⟨hmet, hkept⟩ := keepsOther_of_readOpenMembers hslots fields.met_unmet nofun
      exact ⟨hdeep, as, extra, hs.gives_of_settle (by omega) hmet has, hkept, rfl⟩
    · cases h
  · cases h

/-- **Open records survive** where their fields do, with all that they keep. -/
theorem survives_openRecord (hs : fields.Survive n later)
    (hbuild : ∀ as extra, split (build as extra) = (as, extra)) :
    Survives (n + 1) (openRecord name fields build split) (openRecord name later build split) := by
  intro room d a hroom hread hfree
  obtain ⟨hdeep, as, extra, hgives, hkept, rfl⟩ := gives_of_read_openRecord hs hroom hread
  have hmembers := hfree.of_obj
  rw [hbuild] at hmembers
  have hreturn := return_of_survive hs (show n ≤ room - 1 by omega) hgives fun m hm =>
    hmembers m (List.mem_append_left _ hm)
  have hopen := readOpenMembers_write hreturn extra fun e he => by
      obtain ⟨hhas, d, hd⟩ := hkept e he
      exact ⟨hhas, survives_any (Nat.le_refl _) hd (hmembers e (List.mem_append_right _ he))⟩
  show (openRecord name later build split).read room
    (.obj (Document.ofMembers (writeMembers fields (split (build as extra)).1 ++
      (split (build as extra)).2.entries)) .closed) = _
  rw [hbuild]
  refine bind_eq_ok.mpr ⟨room - 1, enter_eq_ok.mpr ⟨hdeep, rfl⟩, bind_eq_ok.mpr ⟨_, hopen, ?_⟩⟩
  exact map_eq_ok.mpr ⟨as, settle_written hreturn, rfl⟩

end Codec
end OfflineChat
