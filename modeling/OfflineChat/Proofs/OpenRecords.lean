import OfflineChat.Proofs.RecordSurvival

/-! # What open records keep

An open record keeps the members of an object that it has no field for, each with
the value it has where the whole object is read as any value, and no other
(`Codec.keepsRest_openRecord`).  Its fields take nothing that could not be read so,
since they hold texts, numbers and lists of texts only (`Codec.Plain`).
-/
namespace OfflineChat
namespace Codec

variable {α : Type} {c : Codec α} {room : Nat} {ts : List Type} {fields : Fields Codec ts}

/-- Whatever is read can be read as any value as well. -/
def Plain (c : Codec α) : Prop :=
  ∀ ⦃room d a⦄, c.read room d = .ok a → ∃ j, readAny room d = .ok j

theorem plain_string : string.Plain := by
  intro room d s h
  unfold string at h
  dsimp only at h
  split at h
  · exact ⟨_, rfl⟩
  · cases h

theorem readAny_number {m : Numeral} {n : Number} (h : m.value? = some n) :
    ∃ j, readAny room (.number m) = .ok j := by
  rw [readAny, h]
  cases n with
  | int i => exact ⟨_, rfl⟩
  | float x => exact ⟨_, rfl⟩

theorem plain_integer {lo hi : Int} {name : String} : (integer lo hi name).Plain := by
  intro room d i h
  unfold integer at h
  dsimp only at h
  split at h
  · split at h
    · exact readAny_number ‹_›
    · cases h
    · cases h
  · cases h

theorem plain_natural {hi : Nat} {name : String} : (natural hi name).Plain := by
  intro room d i h
  obtain ⟨j, hj, -⟩ := map_eq_ok.mp h
  exact plain_integer hj

theorem plain_single : single.Plain := by
  intro room d x h
  unfold single at h
  dsimp only at h
  split at h
  · split at h
    · exact readAny_number ‹_›
    · exact readAny_number ‹_›
    · cases h
  · cases h

theorem plain_option (hc : c.Plain) : c.option.Plain := by
  intro room d a h
  unfold option at h
  dsimp only at h
  split at h
  · exact ⟨_, rfl⟩
  · obtain ⟨b, hb, -⟩ := map_eq_ok.mp h
    exact hc hb

theorem readAnyItems_of_readItems (hc : c.Plain) {ds : List Document} {as : List α}
    (h : readItems c room ds = .ok as) : ∃ vs, readAnyItems room ds = .ok vs := by
  induction ds generalizing as with
  | nil => exact ⟨_, rfl⟩
  | cons d ds ih =>
    obtain ⟨a, ha, h⟩ := bind_eq_ok.mp h
    obtain ⟨rest, hrest, -⟩ := bind_eq_ok.mp h
    obtain ⟨v, hv⟩ := hc ha
    obtain ⟨vs, hvs⟩ := ih hrest
    exact ⟨v :: vs, bind_eq_ok.mpr ⟨v, hv, bind_eq_ok.mpr ⟨vs, hvs, rfl⟩⟩⟩

theorem plain_list (hc : c.Plain) : c.list.Plain := by
  intro room d as h
  unfold list at h
  dsimp only at h
  split at h
  · obtain ⟨inner, hinner, h⟩ := bind_eq_ok.mp h
    obtain ⟨bs, hbs, h⟩ := bind_eq_ok.mp h
    obtain ⟨rfl, -⟩ := closing_eq_ok.mp h
    obtain ⟨vs, hvs⟩ := readAnyItems_of_readItems hc hbs
    exact ⟨.arr vs, bind_eq_ok.mpr ⟨inner, hinner, bind_eq_ok.mpr ⟨vs, hvs, rfl⟩⟩⟩
  · cases h

end Codec

/-- Whatever a field reads can be read as any value as well. -/
def Fields.Plain : {ts : List Type} → Fields Codec ts → Prop
  | _, .nil => True
  | _, .cons f rest => f.kind.Plain ∧ rest.Plain

namespace Codec

variable {α : Type} {room : Nat} {ts : List Type} {fields : Fields Codec ts}

theorem readAny_of_meet (hplain : fields.Plain) {key : String} {twice : Reject} {d : Document}
    {slots slots' : Slots ts}
    (h : fields.meet key twice (fun c => c.read room d) slots = some (.ok slots')) :
    ∃ j, readAny room d = .ok j := by
  induction fields with
  | nil => cases h
  | cons f rest ih =>
    obtain ⟨slot, slots⟩ := slots
    obtain ⟨a, ha, -⟩ | ⟨s, hs, -⟩ := Fields.meet_cons_cases h
    · exact hplain.1 ha
    · exact ih hplain.2 hs

/-- The members without a field are kept as they are read anyway. -/
theorem readAnyMembers_of_readOpenMembers (hplain : fields.Plain) {slots slots' : Slots ts}
    {extra extra' : Dict Json} {ms : List (Option String × Document)} {acc : List (String × Json)}
    (h : readOpenMembers fields room slots extra ms = .ok (slots', extra'))
    (hacc : ∀ key, fields.has key = false → acc.lookup key = extra.find? key) :
    ∃ out, readAnyMembers room acc ms = .ok out ∧
      ∀ key, fields.has key = false → out.lookup key = extra'.find? key := by
  induction ms generalizing slots extra acc with
  | nil =>
    cases h
    exact ⟨acc, rfl, hacc⟩
  | cons m ms ih =>
    obtain ⟨name | name, d⟩ := m
    · cases h
    · have hstep {v : Json} (hv : readAny room d = .ok v) :
          readAnyMembers room acc ((some name, d) :: ms) =
            readAnyMembers room (putMember name v acc) ms := by
        show (readAny room d >>= fun v => readAnyMembers room (putMember name v acc) ms) = _
        rw [hv]
        rfl
      rw [readOpenMembers_step] at h
      split at h
      · rename_i r hmeet
        obtain ⟨s, rfl, h⟩ := bind_eq_ok.mp h
        obtain ⟨v, hv⟩ := readAny_of_meet hplain hmeet
        rw [hstep hv]
        refine ih h fun key hkey => ?_
        -- the name has a field, so it is none of the others
        have hne : key ≠ name := by
          rintro rfl
          rw [Fields.meet_eq_none_iff.mpr hkey] at hmeet
          cases hmeet
        rw [putMember, Dict.lookup_insertEntry, if_neg hne, hacc key hkey]
      · obtain ⟨v, hv, h⟩ := bind_eq_ok.mp h
        rw [hstep hv]
        refine ih h fun key hkey => ?_
        rw [putMember, Dict.lookup_insertEntry, Dict.find?_insert, hacc key hkey]

/-- An object has the given values wherever a record has no field. -/
def HasRest (fields : Fields Codec ts) (extra : Dict Json) (room : Nat) (d : Document) : Prop :=
  ∃ members, any.read room d = .ok (.obj members) ∧
    ∀ key, fields.has key = false → members.lookup key = extra.find? key

/-- The record keeps in `extra` what the object it was read from has beside the fields, with the
values it has there, and nothing that has a field; and so does the object that it is written as,
given room `n` at least. -/
structure KeepsRest (n : Nat) (c : Codec α) (fields : Fields Codec ts) (extra : α → Dict Json) :
    Prop where
  kept : ∀ ⦃room d a⦄, c.read room d = .ok a → HasRest fields (extra a) room d
  apart : ∀ ⦃room d a⦄, c.read room d = .ok a →
    ∀ key, fields.has key = true → (extra a).find? key = none
  returned : ∀ ⦃room d a⦄, n ≤ room → c.read room d = .ok a → (c.write a).FloatFree →
    HasRest fields (extra a) room (.ofJson (c.write a))

variable {n : Nat} {name : String} {build : Values ts → Dict Json → α}
  {split : α → Values ts × Dict Json} {extra : α → Dict Json}

theorem rest_of_read_openRecord (hplain : fields.Plain)
    (hextra : ∀ as rest, extra (build as rest) = rest) {d : Document} {a : α}
    (h : (openRecord name fields build split).read room d = .ok a) :
    HasRest fields (extra a) room d ∧
      ∀ key, fields.has key = true → (extra a).find? key = none := by
  unfold openRecord at h
  dsimp only at h
  split at h
  · obtain ⟨inner, hinner, h⟩ := bind_eq_ok.mp h
    obtain ⟨⟨slots, rest⟩, hslots, h⟩ := bind_eq_ok.mp h
    dsimp only at h
    split at h
    · rename_i hclosed
      obtain ⟨as, -, rfl⟩ := map_eq_ok.mp h
      obtain ⟨-, hkept⟩ := keepsOther_of_readOpenMembers hslots fields.met_unmet nofun
      obtain ⟨out, hout, hlookup⟩ :=
        readAnyMembers_of_readOpenMembers hplain hslots fun _ _ => rfl
      rw [hextra]
      refine ⟨⟨out, ?_, hlookup⟩, fun key hkey => ?_⟩
      · refine bind_eq_ok.mpr ⟨inner, hinner, bind_eq_ok.mpr ⟨out, hout, ?_⟩⟩
        rw [hclosed]
        rfl
      · cases hfind : rest.find? key with
        | none => rfl
        | some v =>
          have hhas := (hkept _ (Dict.mem_entries_of_find? hfind)).1
          rw [hkey] at hhas
          cases hhas
    · cases h
  · cases h

/-- **Open records keep the rest**, and give it back. -/
theorem keepsRest_openRecord (hs : fields.Survive n fields) (hplain : fields.Plain)
    (hbuild : ∀ as rest, split (build as rest) = (as, rest))
    (hextra : ∀ as rest, extra (build as rest) = rest) :
    KeepsRest (n + 1) (openRecord name fields build split) fields extra where
  kept _ _ _ h := (rest_of_read_openRecord hplain hextra h).1
  apart _ _ _ h := (rest_of_read_openRecord hplain hextra h).2
  returned _ _ _ hroom h hfree :=
    (rest_of_read_openRecord hplain hextra (survives_openRecord hs hbuild hroom h hfree)).1

end Codec
end OfflineChat
