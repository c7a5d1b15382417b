import OfflineChat.Proofs.WireRecords
import OfflineChat.Settings

/-! # Values that are kept

The settings and the session are kept as texts over several lines.  Each is read
back from its text as it was: the texts and truth values in it always, an integer
that fits its field, a number with a fraction that is read back from its own digits
(`Binary.PrintsBack`).  What is read from a text, whatever the text holds, has
integers that fit (`AppSettings.maxTokens_le_of_decode`, `AuthSession.fits_of_decode`).
-/
namespace OfflineChat

/-- A number is read back from the digits it is printed with. -/
def Binary.PrintsBack (x : Binary) : Prop :=
  Codec.single.decode (Codec.single.encode x) = .ok x

instance (x : Binary) : Decidable x.PrintsBack :=
  inferInstanceAs (Decidable (Codec.single.decode (Codec.single.encode x) = .ok x))

/-! ## Printed numbers -/

/-- No blank stands in a text. -/
def Document.Solid (cs : List Char) : Prop := ∀ c ∈ cs, Document.isGap c = false

namespace Document

variable {cs ds rest : List Char}

theorem Solid.skipGaps (h : Solid cs) : skipGaps cs = cs := by
  cases cs with
  | nil => rfl
  | cons c cs => exact skipGaps_cons (h c (List.mem_cons_self ..))

@[simp] theorem solid_append : Solid (cs ++ ds) ↔ Solid cs ∧ Solid ds := List.forall_mem_append

theorem Solid.of_subset (h : Solid ds) (hsub : cs ⊆ ds) : Solid cs := fun c hc => h c (hsub hc)

theorem solid_toDigits (n : Nat) : Solid (Nat.toDigits 10 n) := fun _ hc =>
  Json.Legible.isGap_of_number (.inl (Nat.isDigit_of_mem_toDigits (by decide) (by decide) hc))

theorem solid_replicate (n : Nat) : Solid (List.replicate n '0') := by
  intro c hc
  obtain rfl := List.eq_of_mem_replicate hc
  rfl

theorem solid_positional (h : Solid ds) (point : Int) :
    Solid (Shortest.positional ds point).1 ∧ Solid (Shortest.positional ds point).2 := by
  unfold Shortest.positional
  split
  · exact ⟨by simp [Solid, isGap], solid_append.mpr ⟨solid_replicate _, h⟩⟩
  · exact ⟨solid_append.mpr ⟨h.of_subset (List.take_subset ..), solid_replicate _⟩,
      h.of_subset (List.drop_subset ..)⟩

theorem solid_significant (f : BinaryFormat) (m : Nat) (q : Int) :
    Solid (Shortest.significant f m q).1 := by
  refine (solid_toDigits (Shortest.ofBinary f m q).digits).of_subset fun c hc => ?_
  have hkept := List.mem_reverse.mp hc
  exact List.mem_reverse.mp ((List.dropWhile_suffix _).subset hkept)

theorem solid_signText (negative : Bool) : Solid (Shortest.signText negative).toList := by
  cases negative <;> simp [Shortest.signText, Solid, isGap]

theorem solid_exponentText (e : Int) : Solid (Shortest.exponentText e).toList := by
  have hsign : Solid (if e < 0 then "e-" else "e+").toList := by
    split <;> simp [Solid, isGap]
  have hzero : Solid (if e.natAbs < 10 then "0" else "").toList := by
    split <;> simp [Solid, isGap]
  unfold Shortest.exponentText
  rw [String.toList_append, String.toList_append, solid_append, solid_append,
    Nat.toString_eq_repr, Nat.toList_repr]
  exact ⟨⟨hsign, hzero⟩, solid_toDigits _⟩

/-- No blank stands in a printed number. -/
theorem solid_scientific (f : BinaryFormat) (x : Binary) :
    Solid (Shortest.scientific f x).toList := by
  unfold Shortest.scientific
  split
  · rw [String.toList_append, solid_append]
    exact ⟨solid_signText _, by simp [Solid, isGap]⟩
  · rename_i s m q _
    have hds := solid_significant f m q
    generalize Shortest.significant f m q = r at hds
    obtain ⟨ds, point⟩ := r
    dsimp only at hds ⊢
    split
    · obtain ⟨hwhole, hpart⟩ := solid_positional hds point
      rw [String.toList_append, String.toList_append, String.toList_append, solid_append,
        solid_append, solid_append, String.toList_ofList]
      refine ⟨⟨⟨solid_signText _, hwhole⟩, by simp [Solid, isGap]⟩, ?_⟩
      split
      · simp [Solid, isGap]
      · rwa [String.toList_ofList]
    · rw [String.toList_append, String.toList_append, String.toList_append, solid_append,
        solid_append, solid_append, String.toList_ofList]
      refine ⟨⟨⟨solid_signText _, hds.of_subset (List.take_subset ..)⟩, ?_⟩,
        solid_exponentText _⟩
      split
      · exact List.forall_mem_nil _
      · rw [String.toList_append, solid_append, String.toList_ofList]
        refine ⟨by simp [Solid, isGap], ?_⟩
        rw [String.toList_ofList]
        exact hds.of_subset (List.drop_subset ..)
  · rw [String.toList_append, solid_append]
    exact ⟨solid_signText _, by simp [Solid, isGap]⟩
  · simp [Solid, isGap]

theorem solid_floatChars (f : BinaryFormat) (x : Binary) : Solid (Json.floatChars f x) := by
  unfold Json.floatChars
  split
  · exact solid_scientific f x
  · simp [Solid, isGap]

/-- A number is read from a literal. -/
theorem scan_of_value {fuel : Nat} {n : Numeral} (h : value fuel cs = (.number n, rest)) :
    Numeral.scan (skipGaps cs) = some (n, rest) := by
  unfold value at h
  split at h
  · cases h
  · split at h
    · cases h
    · cases h
    · cases h
    · split at h <;> cases h
    · split at h <;> cases h
    · split at h <;> cases h
    · split at h
      · cases h
        assumption
      · cases h

end Document

namespace Numeral

variable {cs r : List Char} {n : Numeral}

theorem suffix_of_scanWhole {ds : List Char} (h : scanWhole cs = some (ds, r)) : r <:+ cs := by
  unfold scanWhole at h
  split at h
  · split at h
    · cases h
    · cases h
      exact List.suffix_cons ..
  · dsimp only at h
    split at h
    · cases h
    · cases h
      exact List.dropWhile_suffix _

theorem suffix_of_scanFraction {ds : List Char} (h : scanFraction cs = some (ds, r)) : r <:+ cs := by
  unfold scanFraction at h
  split at h
  · dsimp only at h
    split at h
    · cases h
    · cases h
      exact (List.dropWhile_suffix _).trans (List.suffix_cons ..)
  · cases h
    exact List.suffix_refl _

theorem suffix_of_scanExponentDigits {below : Bool} {e : Option (Bool × List Char)}
    (h : scanExponentDigits below cs = some (e, r)) : r <:+ cs := by
  unfold scanExponentDigits at h
  dsimp only at h
  split at h
  · cases h
  · cases h
    exact List.dropWhile_suffix _

theorem suffix_of_scanExponent {e : Option (Bool × List Char)}
    (h : scanExponent cs = some (e, r)) : r <:+ cs := by
  unfold scanExponent at h
  split at h
  · split at h
    · split at h
      · exact (suffix_of_scanExponentDigits h).trans
          ((List.suffix_cons ..).trans (List.suffix_cons ..))
      · exact (suffix_of_scanExponentDigits h).trans
          ((List.suffix_cons ..).trans (List.suffix_cons ..))
      · exact (suffix_of_scanExponentDigits h).trans (List.suffix_cons ..)
    · cases h
      exact List.suffix_refl _
  · cases h
    exact List.suffix_refl _

/-- What follows a literal stands behind it. -/
theorem suffix_of_scan (h : scan cs = some (n, r)) : r <:+ cs := by
  have hparts {negative : Bool} {body : List Char} (h : scanParts negative body = some (n, r)) :
      r <:+ body := by
    obtain ⟨w, hwhole, h⟩ := Option.bind_eq_some_iff.mp h
    obtain ⟨f, hfraction, h⟩ := Option.bind_eq_some_iff.mp h
    obtain ⟨e, hexponent, h⟩ := Option.bind_eq_some_iff.mp h
    cases h
    exact (suffix_of_scanExponent hexponent).trans
      ((suffix_of_scanFraction hfraction).trans (suffix_of_scanWhole hwhole))
  by_cases hminus : ∃ body, cs = '-' :: body
  · obtain ⟨body, rfl⟩ := hminus
    exact (hparts h).trans (List.suffix_cons ..)
  · rw [scan_of_ne fun body heq => hminus ⟨body, heq⟩] at h
    exact hparts h

end Numeral

/-- **A number that is read back is printed as a literal**, and the literal stands for it. -/
theorem Binary.PrintsBack.literal {x : Binary} (h : x.PrintsBack) :
    ∃ n, Numeral.scan (Json.floatChars .single x) = some (n, []) ∧
      ∀ room, Codec.single.read room (.number n) = .ok x := by
  have hsolid := Document.solid_floatChars .single x
  have hchars : (Codec.single.encode x).toList = Json.floatChars .single x :=
    String.toList_ofList
  unfold Binary.PrintsBack Codec.decode Document.ofText at h
  rw [hchars] at h
  obtain ⟨a, hread, hclosed⟩ := Codec.bind_eq_ok.mp h
  obtain ⟨hend, rfl⟩ := Codec.closing_eq_ok.mp hclosed
  generalize hvalue : Document.value _ _ = v at hread hend
  obtain ⟨d, rest⟩ := v
  -- only a number is read as one
  obtain ⟨n, rfl⟩ : ∃ n, d = .number n := by
    cases d with
    | number n => exact ⟨n, rfl⟩
    | _ => cases hread
  have hscan := Document.scan_of_value hvalue
  rw [hsolid.skipGaps] at hscan
  have hsuffix := Numeral.suffix_of_scan hscan
  obtain rfl : rest = [] := by
    have hrest := (hsolid.of_subset hsuffix.subset).skipGaps
    rw [hrest] at hend
    exact List.isEmpty_iff.mp hend
  exact ⟨n, hscan, fun _ => hread⟩

/-! ## Single values -/

namespace Codec

variable {room : Nat} {ts : List Type}

/-- The members of a record are legible if its values are. -/
theorem legible_writeMembers_cons {α : Type} {f : Field Codec α} {rest : Fields Codec ts} {a : α}
    {as : Values ts} (h : (f.kind.write a).Legible) (hrest : ∀ m ∈ writeMembers rest as, m.2.Legible) :
    ∀ m ∈ writeMembers (.cons f rest) (a, as), m.2.Legible := by
  intro m hm
  rw [writeMembers_cons] at hm
  split at hm
  · exact hrest m hm
  · rcases List.mem_cons.mp hm with rfl | hm
    · exact h
    · exact hrest m hm

theorem read_write_natural {hi n : Nat} {name : String} (hhi : hi ≤ 0xFFFFFFFFFFFFFFFF)
    (h : n ≤ hi) : (natural hi name).read room (.ofJson ((natural hi name).write n)) = .ok n := by
  have hback : (integer 0 hi name).read room (.ofJson (.int n)) = .ok (n : Int) :=
    read_integer (by decide) (by omega) (by omega)
  exact map_eq_ok.mpr ⟨n, hback, Int.toNat_natCast n⟩

theorem read_write_single {x : Binary} (h : x.PrintsBack) :
    single.read room (.ofJson (single.write x)) = .ok x := by
  obtain ⟨n, hscan, hread⟩ := h.literal
  show single.read room (.ofJson (.float .single x)) = _
  rw [Document.ofJson_float hscan]
  exact hread room

theorem legible_single {x : Binary} (h : x.PrintsBack) : (single.write x).Legible := by
  obtain ⟨n, hscan, -⟩ := h.literal
  exact .float hscan

theorem read_write_optionString (s : Option String) :
    (option string).read room (.ofJson ((option string).write s)) = .ok s := by
  cases s <;> rfl

theorem legible_optionString (s : Option String) : ((option string).write s).Legible := by
  cases s with
  | none => exact .null
  | some s => exact .str s

theorem legible_optionInteger (lo hi : Int) (name : String) (i : Option Int) :
    ((option (integer lo hi name)).write i).Legible := by
  cases i with
  | none => exact .null
  | some i => exact .int i

theorem read_write_optionInteger {lo hi : Int} {name : String} {i : Option Int}
    (hlo : -0x8000000000000000 ≤ lo) (hhi : hi ≤ 0xFFFFFFFFFFFFFFFF) (h : ∀ n ∈ i, lo ≤ n ∧ n ≤ hi) :
    (option (integer lo hi name)).read room (.ofJson ((option (integer lo hi name)).write i)) =
      .ok i := by
  cases i with
  | none => rfl
  | some i => exact map_eq_ok.mpr ⟨i, read_integer hlo hhi (h i rfl), rfl⟩

theorem read_of_decode {α : Type} {c : Codec α} {text : String} {a : α}
    (h : c.decode text = .ok a) : ∃ d, c.read fullRoom d = .ok a := by
  obtain ⟨b, hread, hclosed⟩ := bind_eq_ok.mp h
  obtain ⟨-, rfl⟩ := closing_eq_ok.mp hclosed
  exact ⟨_, hread⟩

theorem le_of_read_natural {hi n : Nat} {name : String} {d : Document}
    (h : (natural hi name).read room d = .ok n) : n ≤ hi := by
  obtain ⟨i, hread, rfl⟩ := map_eq_ok.mp h
  have hbounds := bounds_of_read hread
  omega

theorem bounds_of_readOption {lo hi : Int} {name : String} {i : Option Int} {d : Document}
    (h : (option (integer lo hi name)).read room d = .ok i) : ∀ n ∈ i, lo ≤ n ∧ n ≤ hi := by
  rintro n rfl
  unfold option at h
  dsimp only at h
  split at h
  · cases h
  · obtain ⟨m, hm, heq⟩ := map_eq_ok.mp h
    cases heq
    exact bounds_of_read hm

end Codec

/-! ## Settings -/

namespace AppSettings

open Codec

/-- The numbers of settings can be kept. -/
structure Fits (s : AppSettings) : Prop where
  maxTokens : s.maxTokens ≤ 0xFFFFFFFF
  temperature : s.temperature.PrintsBack

theorem fits_initial : initial.Fits := ⟨by decide, by decide +kernel⟩

variable {s : AppSettings} {room : Nat}

theorem return_fields (h : s.Fits) :
    fields.Return room fields
      (s.defaultModel, s.maxTokens, s.temperature, s.showTimestamps, s.telemetry, ()) := by
  refine .cons rfl rfl (fun _ => read_write_optionString _) nofun ?_
  refine .cons rfl rfl (fun _ => read_write_natural (by decide) h.maxTokens) nofun ?_
  refine .cons rfl rfl (fun _ => read_write_single h.temperature) nofun ?_
  refine .cons rfl rfl (fun _ => rfl) nofun ?_
  exact .cons rfl rfl (fun _ => rfl) nofun .nil

theorem legible_write (h : s.Fits) : (codec.write s).Legible := by
  refine .obj (legible_writeMembers_cons (legible_optionString _) ?_)
  refine legible_writeMembers_cons (.int _) ?_
  refine legible_writeMembers_cons (legible_single h.temperature) ?_
  refine legible_writeMembers_cons (.bool _) ?_
  exact legible_writeMembers_cons (.bool _) nofun

/-- **Settings are read back from their file.** -/
theorem decode_fileText (h : s.Fits) : codec.decode (Preferences.fileText kind s) = .ok s :=
  decode_pretty (legible_write h) (read_record_write (by decide) (return_fields h) rfl)

theorem survive_fields : fields.Survive 0 fields := by
  have hmodel : ∀ room, 0 ≤ room → ∃ d, (option string).read room d = .ok initial.defaultModel :=
    fun _ _ => ⟨_, read_write_optionString _⟩
  have hmaxTokens : ∀ room, 0 ≤ room → ∃ d, nat32.read room d = .ok initial.maxTokens :=
    fun _ _ => ⟨_, read_write_natural (by decide) (by decide)⟩
  have htemperature : ∀ room, 0 ≤ room → ∃ d, single.read room d = .ok initial.temperature :=
    fun _ _ => ⟨_, read_write_single fits_initial.temperature⟩
  have hbool (b : Bool) : ∀ room, 0 ≤ room → ∃ d, bool.read room d = .ok b :=
    fun _ _ => ⟨.bool b, rfl⟩
  refine .cons (Field.survives_defaulted (survives_option survives_string nofun) hmodel) rfl ?_
  refine .cons (Field.survives_defaulted (survives_natural (by decide)) hmaxTokens) rfl ?_
  refine .cons (Field.survives_defaulted survives_single htemperature) rfl ?_
  refine .cons (Field.survives_defaulted survives_bool (hbool _)) rfl ?_
  exact .cons (Field.survives_defaulted survives_bool (hbool _)) rfl .nil

/-- The limit that is read from a file fits its field. -/
theorem maxTokens_le_of_decode {text : String} (h : codec.decode text = .ok s) :
    s.maxTokens ≤ 0xFFFFFFFF := by
  obtain ⟨d, hread⟩ := read_of_decode h
  obtain ⟨-, as, ⟨-, ⟨d, hd⟩, -⟩, rfl⟩ := gives_of_read_record survive_fields (by decide) hread
  exact le_of_read_natural hd

/-- What a text can change, by the key that it is for. -/
inductive Changes (s : AppSettings) : String → String → AppSettings → Prop
  | defaultModel {text : String} : Changes s "default_model" text
      { s with defaultModel := if Text.trim text = "" then none else some (Text.trim text) }
  | maxTokens {text : String} {n : Nat} (hn : Decimal.natural? 0xFFFFFFFF text = some n)
      (hpos : 0 < n) : Changes s "max_tokens" text { s with maxTokens := n }
  | temperature {text : String} {x : Binary} (hx : Decimal.binary? .single text = some x)
      (hrange : x.isBetweenZeroAnd 2 = true) :
      Changes s "temperature" text { s with temperature := x }
  | showTimestamps {text : String} {b : Bool} (hb : truth? text = some b) :
      Changes s "show_timestamps" text { s with showTimestamps := b }
  | telemetry {text : String} {b : Bool} (hb : truth? text = some b) :
      Changes s "telemetry" text { s with telemetry := b }

/-- **A text changes the setting of its key, or it is refused and changes nothing.** -/
theorem set_cases (s : AppSettings) (key text : String) :
    (∃ s', s.set key text = (.ok (), s') ∧ s.Changes key text s') ∨
      ∃ message, s.set key text = (.error (.config message), s) := by
  unfold AppSettings.set
  dsimp only
  split
  · exact .inl ⟨_, rfl, .defaultModel⟩
  · split
    · exact .inr ⟨_, rfl⟩
    · exact .inr ⟨_, rfl⟩
    · rename_i n hzero hn
      exact .inl ⟨_, rfl, .maxTokens hn (Nat.pos_of_ne_zero hzero)⟩
  · split
    · exact .inr ⟨_, rfl⟩
    · rename_i x hx
      split
      · exact .inl ⟨_, rfl, .temperature hx ‹_›⟩
      · exact .inr ⟨_, rfl⟩
  · split
    · exact .inl ⟨_, rfl, .showTimestamps ‹_›⟩
    · exact .inr ⟨_, rfl⟩
  · split
    · exact .inl ⟨_, rfl, .telemetry ‹_›⟩
    · exact .inr ⟨_, rfl⟩
  · exact .inr ⟨_, rfl⟩

/-- **A text is taken exactly if it says something the setting of its key can be.** -/
theorem set_eq_ok_iff {s' : AppSettings} {key text : String} :
    s.set key text = (.ok (), s') ↔ s.Changes key text s' := by
  constructor
  · intro hset
    obtain ⟨s'', hset', hchanges⟩ | ⟨message, hset'⟩ := set_cases s key text
    · cases hset.symm.trans hset'
      exact hchanges
    · cases hset.symm.trans hset'
  · intro h
    cases h with
    | defaultModel => rfl
    | @maxTokens text n hn hpos =>
      obtain ⟨n, rfl⟩ := Nat.exists_eq_add_of_le' hpos
      simp only [set, hn]
    | temperature hx hrange => simp only [set, hx, hrange, if_true]
    | showTimestamps hb => simp only [set, hb]
    | telemetry hb => simp only [set, hb]

/-- A setting that is changed by its text fits, if a temperature is read back from its digits. -/
theorem Fits.set {s' : AppSettings} {key text : String} (h : s.Fits)
    (htemperature : key = "temperature" → ∀ x, Decimal.binary? .single text = some x →
      x.isBetweenZeroAnd 2 = true → x.PrintsBack) (hset : s.set key text = (.ok (), s')) : s'.Fits := by
  cases set_eq_ok_iff.mp hset with
  | maxTokens hn =>
    have hlimit := (Option.filter_eq_some_iff.mp hn).2
    exact ⟨of_decide_eq_true hlimit, h.temperature⟩
  | temperature hx hrange => exact ⟨h.maxTokens, htemperature rfl _ hx hrange⟩
  | defaultModel => exact ⟨h.maxTokens, h.temperature⟩
  | showTimestamps => exact ⟨h.maxTokens, h.temperature⟩
  | telemetry => exact ⟨h.maxTokens, h.temperature⟩

end AppSettings

/-! ## The session -/

namespace AuthSession

open Codec

/-- The number of a session can be kept. -/
def Fits (s : AuthSession) : Prop :=
  ∀ t ∈ s.expiresAt, -0x8000000000000000 ≤ t ∧ t ≤ 0x7FFFFFFFFFFFFFFF

theorem fits_initial : initial.Fits := nofun

variable {s : AuthSession} {room : Nat}

theorem return_fields (h : s.Fits) :
    fields.Return room fields
      (s.token, s.tokenType, s.expiresAt, s.userId, s.email, s.name, s.role, ()) := by
  refine .cons rfl rfl (fun _ => read_write_optionString _) nofun ?_
  refine .cons rfl rfl (fun _ => read_write_optionString _) nofun ?_
  refine .cons rfl rfl (fun _ => read_write_optionInteger (by decide) (by decide) h) nofun ?_
  refine .cons rfl rfl (fun _ => read_write_optionString _) nofun ?_
  refine .cons rfl rfl (fun _ => read_write_optionString _) nofun ?_
  refine .cons rfl rfl (fun _ => read_write_optionString _) nofun ?_
  exact .cons rfl rfl (fun _ => read_write_optionString _) nofun .nil

theorem legible_write (s : AuthSession) : (codec.write s).Legible := by
  refine .obj (legible_writeMembers_cons (legible_optionString _) ?_)
  refine legible_writeMembers_cons (legible_optionString _) ?_
  refine legible_writeMembers_cons (legible_optionInteger ..) ?_
  refine legible_writeMembers_cons (legible_optionString _) ?_
  refine legible_writeMembers_cons (legible_optionString _) ?_
  refine legible_writeMembers_cons (legible_optionString _) ?_
  exact legible_writeMembers_cons (legible_optionString _) nofun

/-- **A session is read back from its file.** -/
theorem decode_fileText (h : s.Fits) : codec.decode (Preferences.fileText kind s) = .ok s :=
  decode_pretty (legible_write s) (read_record_write (by decide) (return_fields h) rfl)

theorem survive_fields : fields.Survive 0 fields := by
  refine .cons Field.survives_nullableText rfl ?_
  refine .cons Field.survives_nullableText rfl ?_
  refine .cons (Field.survives_nullable survives_int64 nofun) rfl ?_
  refine .cons Field.survives_nullableText rfl ?_
  refine .cons Field.survives_nullableText rfl ?_
  refine .cons Field.survives_nullableText rfl ?_
  exact .cons Field.survives_nullableText rfl .nil

/-- The session that is read from a file can be kept. -/
theorem fits_of_decode {text : String} (h : codec.decode text = .ok s) : s.Fits := by
  obtain ⟨d, hread⟩ := read_of_decode h
  obtain ⟨-, as, ⟨-, -, ⟨d, hd⟩, -⟩, rfl⟩ := gives_of_read_record survive_fields (by decide) hread
  exact bounds_of_readOption hd

/-- The session of a sign-in that was read can be kept. -/
theorem fits_ofSignIn {text : String} {answer : SignIn} (h : SignIn.codec.decode text = .ok answer) :
    (ofSignIn answer).Fits := by
  obtain ⟨d, hread⟩ := read_of_decode h
  obtain ⟨-, as, ⟨-, -, ⟨d, hd⟩, -⟩, rfl⟩ :=
    gives_of_read_record (survives_signInFields (n := 0)) (by decide) hread
  exact bounds_of_readOption hd

end AuthSession

end OfflineChat
