import OfflineChat.Proofs.DictEntries
import OfflineChat.Proofs.RecordSurvival

/-! # Reading at different times

What a text reads as can depend on the time at which it is read: a field that is
left out can get its value from the clock.  A text is therefore looked at as
read at all times, and what is read of it as a value over time.  Whether it is
refused never depends on the time, nor does the refusal
(`Readings`); and each way of building codecs passes on what is known of the
values of its parts over time (`Codec.Times`).  What is known is a set of courses:
that a value is the same at all times (`Steady`), or something less.
-/
namespace OfflineChat

variable {α β ε : Type}

/-- A value over time is the same at all times. -/
def Steady (a : Int → α) : Prop := ∃ v, ∀ now, a now = v

theorem steady_const (v : α) : Steady fun _ => v := ⟨v, fun _ => rfl⟩

/-- What is read at each time: it is refused at all times and with one refusal, or it is a value at
all times, of which `P` holds over time. -/
inductive Readings (P : (Int → α) → Prop) (r : Int → Except ε α) : Prop
  | refused (e : ε) (h : ∀ now, r now = .error e)
  | read (a : Int → α) (ha : P a) (h : ∀ now, r now = .ok (a now))

/-- What there is at each time: nothing at all times, or a value at all times, of which `P` holds
over time. -/
inductive Presence (P : (Int → α) → Prop) (o : Int → Option α) : Prop
  | absent (h : ∀ now, o now = none)
  | present (a : Int → α) (ha : P a) (h : ∀ now, o now = some (a now))

namespace Readings

variable {P : (Int → α) → Prop} {Q : (Int → β) → Prop} {r : Int → Except ε α}

theorem const (x : Except ε α) : Readings Steady fun _ => x := by
  cases x with
  | error e => exact .refused e fun _ => rfl
  | ok v => exact .read (fun _ => v) (steady_const v) fun _ => rfl

theorem ok {a : Int → α} (ha : P a) : Readings (ε := ε) P fun now => .ok (a now) :=
  .read a ha fun _ => rfl

theorem bind {f : Int → α → Except ε β} (h : Readings P r)
    (hf : ∀ a, P a → Readings Q fun now => f now (a now)) :
    Readings Q fun now => r now >>= f now := by
  cases h with
  | refused e h => exact .refused e fun now => by rw [h]; rfl
  | read a ha h =>
    have hrest := hf a ha
    have heq : (fun now => r now >>= f now) = fun now => f now (a now) := by
      funext now
      rw [h]
      rfl
    rwa [heq]

theorem map {f : Int → α → β} (h : Readings P r) (hf : ∀ a, P a → Q fun now => f now (a now)) :
    Readings Q fun now => (r now).map (f now) := by
  cases h with
  | refused e h => exact .refused e fun now => by rw [h]; rfl
  | read a ha h => exact .read _ (hf a ha) fun now => by rw [h]; rfl

/-- A step that does not depend on the time. -/
theorem bind_const {x : Except ε α} {f : Int → α → Except ε β}
    (hf : ∀ v, x = .ok v → Readings Q fun now => f now v) : Readings Q fun now => x >>= f now := by
  cases x with
  | error e => exact .refused e fun _ => rfl
  | ok v => exact hf v rfl

end Readings

namespace Codec

/-- A codec that may depend on the time reads everything so that `P` holds of it over time. -/
def Times (P : (Int → α) → Prop) (c : Int → Codec α) : Prop :=
  ∀ room d, Readings P fun now => (c now).read room d

theorem Times.mono {P Q : (Int → α) → Prop} {c : Int → Codec α} (h : Times P c)
    (hPQ : ∀ a, P a → Q a) : Times Q c := by
  intro room d
  cases h room d with
  | refused e h => exact .refused e h
  | read a ha h => exact .read a (hPQ a ha) h

/-- A codec that does not depend on the time. -/
theorem times_const (c : Codec α) : Times Steady fun _ => c := fun room d => .const (c.read room d)

theorem readings_closing {P : (Int → α) → Prop} {a : Int → α} (closed : Bool) (ha : P a) :
    Readings P fun now => closing closed (a now) := by
  cases closed with
  | false => exact .refused .malformed fun _ => rfl
  | true => exact .ok ha

/-- A whole text is read at each time as its document is. -/
theorem Times.decode {P : (Int → α) → Prop} {c : Int → Codec α} (h : Times P c) (text : String) :
    Readings P fun now => (c now).decode text :=
  (h fullRoom _).bind fun _ ha => readings_closing _ ha

/-! ## Dictionaries -/

/-- What is known of each entry of a dictionary over time. -/
def Entries (P : (Int → α) → Prop) (d : Int → Dict α) : Prop :=
  ∀ key, Presence P fun now => (d now).find? key

theorem readings_readEntries {P : (Int → α) → Prop} {c : Int → Codec α} (hc : Times P c)
    (room : Nat) (members : List (Option String × Document)) :
    ∀ acc, Entries P acc → Readings (Entries P) fun now =>
      readEntries (c now) room (acc now) members := by
  induction members with
  | nil => exact fun acc hacc => .ok hacc
  | cons member rest ih =>
    obtain ⟨key?, d⟩ := member
    intro acc hacc
    cases key? with
    | none => exact .refused .malformed fun _ => rfl
    | some key =>
      refine (hc room d).bind fun a ha => ih (fun now => (acc now).insert key (a now)) fun key' => ?_
      by_cases hkey : key' = key
      · exact .present a ha fun now => by rw [Dict.find?_insert, if_pos hkey]
      · cases hacc key' with
        | absent h => exact .absent fun now => by rw [Dict.find?_insert, if_neg hkey, h]
        | present b hb h => exact .present b hb fun now => by rw [Dict.find?_insert, if_neg hkey, h]

theorem times_dict {P : (Int → α) → Prop} {c : Int → Codec α} (hc : Times P c) :
    Times (Entries P) fun now => (c now).dict := by
  intro room d
  cases d with
  | obj members ending =>
    exact Readings.bind_const fun inner _ =>
      (readings_readEntries hc inner members (fun _ => .empty) fun _ => .absent fun _ => rfl).bind
        fun _ ha => readings_closing _ ha
  | _ => exact .refused _ fun _ => rfl

end Codec

/-! ## Records -/

/-- What is known of each of some values over time. -/
inductive Courses : List Type → Type 1
  | nil : Courses []
  | cons {α : Type} {ts : List Type} (P : (Int → α) → Prop) (rest : Courses ts) : Courses (α :: ts)

namespace Courses

/-- It holds of values over time. -/
def OfValues : {ts : List Type} → Courses ts → (Int → Values ts) → Prop
  | _, .nil, _ => True
  | _, .cons P rest, v => P (fun now => (v now).1) ∧ rest.OfValues fun now => (v now).2

/-- It holds over time of the values there are. -/
def OfSlots : {ts : List Type} → Courses ts → (Int → Slots ts) → Prop
  | _, .nil, _ => True
  | _, .cons P rest, s => Presence P (fun now => (s now).1) ∧ rest.OfSlots fun now => (s now).2

theorem ofSlots_unmet : {ts : List Type} → (courses : Courses ts) →
    courses.OfSlots fun _ => Fields.unmet ts
  | _, .nil => trivial
  | _, .cons _ rest => ⟨.absent fun _ => rfl, rest.ofSlots_unmet⟩

end Courses

/-- The fields of a record that may depend on the time: how the values are read, and what they are if
left out. -/
inductive Fields.Times : {ts : List Type} → Courses ts → (Int → Fields Codec ts) → Prop
  | nil : Times .nil fun _ => .nil
  | cons {α : Type} {ts : List Type} {P : (Int → α) → Prop} {courses : Courses ts}
      {kind : Int → Codec α} {absent : Int → Option α} {rest : Int → Fields Codec ts}
      (name : String) (endsLists : Bool) (omits : α → Bool) (hkind : Codec.Times P kind)
      (habsent : Presence P absent) (hrest : Times courses rest) :
      Times (.cons P courses) fun now =>
        .cons ⟨name, kind now, absent now, endsLists, omits⟩ (rest now)

namespace Fields.Times

variable {ts : List Type} {courses : Courses ts} {fields : Int → Fields Codec ts}

theorem required {P : (Int → α) → Prop} {kind : Int → Codec α} {name : String}
    (hkind : Codec.Times P kind) (hrest : Times courses fields) :
    Times (.cons P courses) fun now => .cons (.required name (kind now)) (fields now) :=
  .cons name _ _ hkind (.absent fun _ => rfl) hrest

theorem omitted {P : (Int → α) → Prop} {kind : Int → Codec α} {value : Int → α} {name : String}
    {omits : α → Bool} (hkind : Codec.Times P kind) (hvalue : P value)
    (hrest : Times courses fields) :
    Times (.cons P courses) fun now =>
      .cons (.omitted name (kind now) (value now) omits) (fields now) :=
  .cons name true omits hkind (.present value hvalue fun _ => rfl) hrest

theorem defaulted {P : (Int → α) → Prop} {kind : Int → Codec α} {value : Int → α} {name : String}
    (hkind : Codec.Times P kind) (hvalue : P value) (hrest : Times courses fields) :
    Times (.cons P courses) fun now => .cons (.defaulted name (kind now) (value now)) (fields now) :=
  omitted hkind hvalue hrest

theorem size_eq (h : Times courses fields) : ∃ n, ∀ now, (fields now).size = n := by
  induction h with
  | nil => exact ⟨0, fun _ => rfl⟩
  | cons name endsLists omits _ _ _ ih =>
    obtain ⟨n, hn⟩ := ih
    exact ⟨n + 1, fun now => congrArg (· + 1) (hn now)⟩

/-- A member is met at all times or at none. -/
theorem meet (h : Times courses fields) (key : String) (twice : Reject) (room : Nat) (d : Document) :
    ∀ slots, courses.OfSlots slots → Presence (Readings courses.OfSlots) fun now =>
      (fields now).meet key twice (fun c => c.read room d) (slots now) := by
  induction h with
  | nil => exact fun _ _ => .absent fun _ => rfl
  | @cons α ts P courses kind absent rest name endsLists omits hkind _ _ ih =>
    intro slots ⟨hslot, hslots⟩
    by_cases hname : name = key
    · -- the field has been met before at all times or at none
      refine .present _ ?_ fun now => if_pos hname
      cases hslot with
      | absent h =>
        simp only [h]
        exact (hkind room d).map fun a ha => ⟨.present a ha fun _ => rfl, hslots⟩
      | present b hb h =>
        simp only [h]
        exact .refused twice fun _ => rfl
    · cases ih _ hslots with
      | absent h =>
        refine .absent fun now => (if_neg hname).trans ?_
        rw [h]
        rfl
      | present r hr h =>
        refine .present (fun now => (r now).map fun s => ((slots now).1, s)) ?_ fun now => ?_
        · exact hr.map fun s hs => ⟨hslot, hs⟩
        · refine (if_neg hname).trans ?_
          rw [h]
          rfl

end Fields.Times

/-- A field that was left out has a value at all times or at none. -/
theorem Presence.missing {P : (Int → α) → Prop} {absent : Int → Option α} (h : Presence P absent)
    {R : Type → Type} {name : String} {kind : Int → R α} {endsLists : Bool} {omits : α → Bool}
    (reason : Reject) :
    Readings P fun now =>
      (⟨name, kind now, absent now, endsLists, omits⟩ : Field R α).missing reason := by
  cases h with
  | absent h => exact .refused reason fun now => by rw [Field.missing, h]
  | present a ha h => exact .read a ha fun now => by rw [Field.missing, h]

/-- So has one that a list is too short for. -/
theorem Presence.beyond {P : (Int → α) → Prop} {absent : Int → Option α} (h : Presence P absent)
    {R : Type → Type} {name : String} {kind : Int → R α} {endsLists : Bool} {omits : α → Bool}
    (reason : Reject) :
    Readings P fun now =>
      (⟨name, kind now, absent now, endsLists, omits⟩ : Field R α).beyond reason := by
  cases endsLists with
  | true => exact h.missing reason
  | false => exact .refused reason fun _ => rfl

namespace Fields.Times

variable {ts : List Type} {courses : Courses ts} {fields : Int → Fields Codec ts}

theorem settle (h : Times courses fields) : ∀ slots, courses.OfSlots slots →
    Readings courses.OfValues fun now => (fields now).settle (slots now) := by
  induction h with
  | nil => exact fun _ _ => .ok trivial
  | @cons α ts P courses kind absent rest name endsLists omits _ habsent _ ih =>
    intro slots ⟨hslot, hslots⟩
    have hrest : ∀ a : Int → α, P a → Readings (Courses.cons P courses).OfValues fun now =>
        (rest now).settle (slots now).2 >>= fun as => .ok (a now, as) := fun a ha =>
      (ih _ hslots).bind (f := fun now as => .ok (a now, as)) fun as has => .ok ⟨ha, has⟩
    show Readings _ fun now => Fields.settle (.cons _ (rest now)) ((slots now).1, (slots now).2)
    -- what the slot holds, or what it is without it, before what the rest holds
    cases hslot with
    | absent h =>
      simp only [Fields.settle_cons, h]
      exact (habsent.missing _).bind hrest
    | present a ha h =>
      simp only [Fields.settle_cons, h]
      exact (Readings.ok ha).bind hrest

theorem readMembers (h : Times courses fields) (room : Nat)
    (members : List (Option String × Document)) : ∀ slots, courses.OfSlots slots →
      Readings courses.OfSlots fun now =>
        Codec.readMembers (fields now) room (slots now) members := by
  induction members with
  | nil => exact fun slots hslots => .ok hslots
  | cons member rest ih =>
    obtain ⟨key?, d⟩ := member
    intro slots hslots
    cases key? with
    | none => exact .refused .malformed fun _ => rfl
    | some key =>
      simp only [Codec.readMembers]
      cases h.meet key (.duplicateField key) room d slots hslots with
      | absent hnone =>
        simp only [hnone]
        split
        · exact ih slots hslots
        · exact .refused .malformed fun _ => rfl
      | present r hr hsome =>
        simp only [hsome]
        exact hr.bind ih

theorem readPositions (h : Times courses fields) (room : Nat) (expected : String) :
    ∀ (n : Nat) (items : List Document),
      Readings (fun r => courses.OfValues (fun now => (r now).1) ∧ Steady fun now => (r now).2)
        fun now => Codec.readPositions room expected n (fields now) items := by
  induction h with
  | nil => exact fun n items => .ok ⟨trivial, steady_const items⟩
  | cons name endsLists omits hkind habsent _ ih =>
    intro n items
    cases items with
    | nil =>
      exact (habsent.beyond _).bind fun a ha => (ih (n + 1) []).bind fun r hr =>
        .ok ⟨⟨ha, hr.1⟩, hr.2⟩
    | cons d items =>
      exact (hkind room d).bind fun a ha => (ih (n + 1) items).bind fun r hr =>
        .ok ⟨⟨ha, hr.1⟩, hr.2⟩

/-- **A record is read at all times or at none**, and of what is read of it holds over time what
follows from what holds of its fields. -/
theorem record (h : Times courses fields) (name : String) {build : Values ts → α}
    {split : α → Values ts} {P : (Int → α) → Prop}
    (hbuild : ∀ v, courses.OfValues v → P fun now => build (v now)) :
    Codec.Times P fun now => .record name (fields now) build split := by
  intro room d
  cases d with
  | obj members ending =>
    refine Readings.bind_const fun inner _ =>
      (h.readMembers inner members _ courses.ofSlots_unmet).bind fun slots hslots => ?_
    split
    · exact (h.settle slots hslots).map hbuild
    · exact .refused .malformed fun _ => rfl
  | arr items closed =>
    refine Readings.bind_const fun inner _ => ?_
    obtain ⟨n, hn⟩ := h.size_eq
    simp only [hn]
    refine (h.readPositions inner _ 0 _).bind fun r ⟨hvalues, rest, hrest⟩ => ?_
    simp only [hrest]
    exact Codec.readings_closing _ (hbuild _ hvalues)
  | _ => exact .refused _ fun _ => rfl

end Fields.Times
end OfflineChat
