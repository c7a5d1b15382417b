import Mathlib.Data.List.Chain
import Mathlib.Data.List.Perm.Subperm
import OfflineChat.Thread

/-! # The thread is the maximal parent walk

`MessageMap.walk` takes at most as many steps as there are messages, whatever
the links between these look like: chains that end nowhere, circles, chains that
run into circles, and keys that are not the ids of the messages under them.
`IsMaximalWalk` says without any bound what a walk along parent links is and
where it may end.  There is exactly one such walk, and the thread is that walk
turned around (`MessageMap.thread_is_maximal_walk`).

The bound never cuts a walk short because the ids met are distinct and all
belong to messages of the map: once there are as many of them as messages, the
next link can only lead to an id met before (`climbs_walkFrom`).
-/
namespace OfflineChat
namespace MessageMap

variable {messages : MessageMap} {met : List String} {link : Option String} {path : List Message}

/-! ## Walks without a bound -/

/-- The message that a link leads to. -/
def follow (messages : MessageMap) (link : Option String) : Option Message :=
  link.bind messages.find?

/-- Where a walk ends: there is no further link, it leads nowhere, or it leads to a message whose id
has been met. -/
inductive Ends (messages : MessageMap) (met : List String) : Option String → Prop
  | root : Ends messages met none
  | nowhere {key : String} (h : messages.find? key = none) : Ends messages met (some key)
  | again {key : String} {m : Message} (h : messages.find? key = some m) (hm : m.id ∈ met) :
    Ends messages met (some key)

/-- A maximal walk along parent links, from the current message towards the root. -/
structure IsMaximalWalk (messages : MessageMap) (currentId : Option String)
    (path : List Message) : Prop where
  /-- It starts with the current message, if there is one. -/
  starts : path.head? = messages.follow currentId
  /-- Each further message is the one that the parent link of the message before it leads to. -/
  climbs : path.IsChain fun m n => messages.follow m.parentId = some n
  /-- No id comes twice. -/
  nodup : (path.map (·.id)).Nodup
  /-- It goes on until it has to end. -/
  ends : ∀ last, path.getLast? = some last → Ends messages (path.map (·.id)) last.parentId

/-- Walks past the ids that have been met, one message at a time. -/
inductive Climbs (messages : MessageMap) : List String → Option String → List Message → Prop
  | stop {met : List String} {link : Option String} (h : Ends messages met link) :
    Climbs messages met link []
  | up {met : List String} {key : String} {m : Message} {path : List Message}
      (h : messages.find? key = some m) (hnew : m.id ∉ met)
      (rest : Climbs messages (m.id :: met) m.parentId path) :
    Climbs messages met (some key) (m :: path)

theorem Ends.mono {met' : List String} (h : Ends messages met link)
    (hsub : ∀ id ∈ met, id ∈ met') : Ends messages met' link := by
  cases h with
  | root => exact .root
  | nowhere h => exact .nowhere h
  | again h hm => exact .again h (hsub _ hm)

/-- A link from which a walk goes on is not one where it ends. -/
theorem Ends.not_up {key : String} {m : Message} (h : Ends messages met (some key))
    (hm : messages.find? key = some m) : m.id ∈ met := by
  cases h with
  | nowhere h => rw [hm] at h; cases h
  | again h hmet =>
    rw [hm] at h
    cases h
    exact hmet

/-- There is only one way to climb. -/
theorem Climbs.unique {path' : List Message} (h : Climbs messages met link path)
    (h' : Climbs messages met link path') : path = path' := by
  induction h generalizing path' with
  | stop h =>
    cases h' with
    | stop _ => rfl
    | up hm hnew _ => exact absurd (h.not_up hm) hnew
  | up hm hnew _ ih =>
    cases h' with
    | stop h => exact absurd (h.not_up hm) hnew
    | up hm' _ rest =>
      rw [hm] at hm'
      cases hm'
      rw [ih rest]

/-- Climbing meets new ids only, and none twice. -/
theorem Climbs.nodup (h : Climbs messages met link path) :
    (path.map (·.id)).Nodup ∧ ∀ m ∈ path, m.id ∉ met := by
  induction h with
  | stop _ => exact ⟨List.Pairwise.nil, fun m hm => by cases hm⟩
  | @up met key m path _ hnew _ ih =>
    obtain ⟨hnodup, hout⟩ := ih
    constructor
    · rw [List.map_cons, List.nodup_cons]
      refine ⟨fun hin => ?_, hnodup⟩
      obtain ⟨n, hn, hid⟩ := List.mem_map.mp hin
      exact hout n hn (hid ▸ List.mem_cons_self ..)
    · intro n hn
      rcases List.mem_cons.mp hn with rfl | hn
      · exact hnew
      · exact fun hmet => hout n hn (List.mem_cons_of_mem _ hmet)

theorem Climbs.head? (h : Climbs messages met link path) (hpath : path ≠ []) :
    path.head? = messages.follow link := by
  cases h with
  | stop _ => exact absurd rfl hpath
  | up h _ _ => exact h.symm

theorem Climbs.isChain (h : Climbs messages met link path) :
    path.IsChain fun m n => messages.follow m.parentId = some n := by
  induction h with
  | stop _ => exact .nil
  | @up met key m path _ _ rest ih =>
    cases path with
    | nil => exact .singleton m
    | cons n path => exact .cons_cons (rest.head? (List.cons_ne_nil _ _)).symm ih

theorem Climbs.ends_of_nil (h : Climbs messages met link []) : Ends messages met link := by
  cases h with
  | stop h => exact h

theorem Climbs.ends (h : Climbs messages met link path) {last : Message}
    (hlast : path.getLast? = some last) : Ends messages (path.map (·.id) ++ met) last.parentId := by
  induction h with
  | stop _ => cases hlast
  | @up met key m path _ _ rest ih =>
    cases path with
    | nil =>
      cases hlast
      exact rest.ends_of_nil
    | cons n path =>
      refine (ih (by rwa [List.getLast?_cons_cons] at hlast)).mono fun id hid => ?_
      simp only [List.map_cons, List.mem_append, List.mem_cons] at hid ⊢
      tauto

/-- A list that is linked like a walk, past the ids that have been met, is climbed. -/
theorem climbs_of_isChain (hstart : path.head? = messages.follow link ∨
      path = [] ∧ Ends messages met link)
    (hchain : path.IsChain fun m n => messages.follow m.parentId = some n)
    (hnodup : (path.map (·.id)).Nodup) (hout : ∀ m ∈ path, m.id ∉ met)
    (hends : ∀ last, path.getLast? = some last →
      Ends messages (path.map (·.id) ++ met) last.parentId) :
    Climbs messages met link path := by
  induction path generalizing met link with
  | nil =>
    rcases hstart with h | ⟨-, h⟩
    · cases link with
      | none => exact .stop .root
      | some key => exact .stop (.nowhere h.symm)
    · exact .stop h
  | cons m rest ih =>
    have hm : messages.follow link = some m := by
      rcases hstart with h | ⟨h, -⟩
      · exact h.symm
      · cases h
    cases link with
    | none => cases hm
    | some key =>
      rw [List.map_cons, List.nodup_cons] at hnodup
      refine .up hm (hout m (List.mem_cons_self ..)) (ih ?_ hchain.tail hnodup.2 ?_ ?_)
      · cases rest with
        | nil => exact .inr ⟨rfl, hends m rfl⟩
        | cons n rest => exact .inl (List.isChain_cons_cons.mp hchain).1.symm
      · intro n hn hmet
        rcases List.mem_cons.mp hmet with hid | hmet
        · exact hnodup.1 (hid ▸ List.mem_map_of_mem hn)
        · exact hout n (List.mem_cons_of_mem _ hn) hmet
      · intro last hlast
        cases rest with
        | nil => cases hlast
        | cons n rest =>
          refine (hends last (by rwa [List.getLast?_cons_cons])).mono fun id hid => ?_
          simp only [List.map_cons, List.mem_append, List.mem_cons] at hid ⊢
          tauto

/-- Maximal walks are the climbs on which nothing has been met before. -/
theorem isMaximalWalk_iff_climbs :
    IsMaximalWalk messages link path ↔ Climbs messages [] link path := by
  constructor
  · intro h
    refine climbs_of_isChain (.inl h.starts) h.climbs h.nodup (fun _ _ => List.not_mem_nil) ?_
    intro last hlast
    rw [List.append_nil]
    exact h.ends last hlast
  · intro h
    refine ⟨?_, h.isChain, h.nodup.1, fun last hlast => ?_⟩
    · cases h with
      | stop h =>
        cases h with
        | root => rfl
        | nowhere h => exact h.symm
        | again _ hm => cases hm
      | up h _ _ => exact h.symm
    · have hends := h.ends hlast
      rwa [List.append_nil] at hends

/-! ## The bounded walk -/

theorem mem_ids_of_find? {key : String} {m : Message} (h : messages.find? key = some m) :
    m.id ∈ messages.values.map (·.id) := by
  obtain ⟨before, after, hsplit, -⟩ := List.lookup_eq_some_iff.mp h
  have hmem : (key, m) ∈ messages.entries := hsplit ▸ by simp
  exact List.mem_map_of_mem (List.mem_map_of_mem hmem)

/-- Distinct ids of messages, as many as there are messages, are all the ids there are. -/
theorem mem_met_of_full (hnodup : met.Nodup) (hsub : met ⊆ messages.values.map (·.id))
    (hfull : messages.size ≤ met.length) {id : String} (hid : id ∈ messages.values.map (·.id)) :
    id ∈ met := by
  have hlen : (messages.values.map (·.id)).length ≤ met.length := by
    rwa [List.length_map, Dict.values, List.length_map]
  exact ((List.subperm_of_subset hnodup hsub).perm_of_length_le hlen).symm.subset hid

/-- **The bound does not cut a walk short**, as long as it leaves a step for every message whose id
has not been met. -/
theorem climbs_walkFrom {steps : Nat} (hnodup : met.Nodup)
    (hsub : met ⊆ messages.values.map (·.id)) (hroom : messages.size ≤ steps + met.length) :
    Climbs messages met link (walkFrom messages steps met link) := by
  induction steps generalizing met link with
  | zero =>
    -- no step is left, but every id there is has been met
    rw [Nat.zero_add] at hroom
    refine .stop ?_
    cases link with
    | none => exact .root
    | some key =>
      cases h : messages.find? key with
      | none => exact .nowhere h
      | some m => exact .again h (mem_met_of_full hnodup hsub hroom (mem_ids_of_find? h))
  | succ steps ih =>
    cases link with
    | none => exact .stop .root
    | some key =>
      cases h : messages.find? key with
      | none =>
        rw [walkFrom, h]
        exact .stop (.nowhere h)
      | some m =>
        rw [walkFrom, h]
        dsimp only
        split
        · rename_i hmet
          exact .stop (.again h hmet)
        · rename_i hnew
          refine .up h hnew (ih (List.nodup_cons.mpr ⟨hnew, hnodup⟩) ?_ ?_)
          · exact List.cons_subset.mpr ⟨mem_ids_of_find? h, hsub⟩
          · rw [List.length_cons]
            omega

theorem climbs_walk (messages : MessageMap) (currentId : Option String) :
    Climbs messages [] currentId (messages.walk currentId) :=
  climbs_walkFrom List.nodup_nil (List.nil_subset _) (Nat.le_add_right _ _)

/-- A walk looks at the entries of the map that its links name, and at no other. -/
theorem Climbs.congr {messages' : MessageMap} (h : Climbs messages met link path)
    (hagree : ∀ key, link = some key ∨ (∃ m ∈ path, m.parentId = some key) →
      messages'.find? key = messages.find? key) : Climbs messages' met link path := by
  induction h with
  | stop h =>
    refine .stop ?_
    cases h with
    | root => exact .root
    | nowhere h => exact .nowhere ((hagree _ (.inl rfl)).trans h)
    | again h hm => exact .again ((hagree _ (.inl rfl)).trans h) hm
  | @up met key m path h hnew _ ih =>
    refine .up ((hagree _ (.inl rfl)).trans h) hnew (ih fun key' hkey' => hagree key' (.inr ?_))
    rcases hkey' with hlink | ⟨n, hn, hlink⟩
    · exact ⟨m, List.mem_cons_self .., hlink⟩
    · exact ⟨n, List.mem_cons_of_mem _ hn, hlink⟩

theorem walk_length_le (messages : MessageMap) (currentId : Option String) :
    (messages.walk currentId).length ≤ messages.size := by
  unfold walk
  generalize messages.size = steps
  generalize ([] : List String) = met
  induction steps generalizing met currentId with
  | zero => exact Nat.le_refl 0
  | succ steps ih =>
    cases currentId with
    | none => exact Nat.zero_le _
    | some key =>
      rw [walkFrom]
      split
      · exact Nat.zero_le _
      · split
        · exact Nat.zero_le _
        · exact Nat.succ_le_succ (ih _ _)

/-- **The thread, turned around, is the one maximal walk along parent links.**  So no id comes
twice in it, it is no longer than there are messages, a longer bound would not make it longer, and
only the entries under the current id and under the parent ids of its own messages matter. -/
theorem thread_is_maximal_walk (messages : MessageMap) (currentId : Option String) :
    (∀ path, IsMaximalWalk messages currentId path ↔ path = (messages.thread currentId).reverse) ∧
    ((messages.thread currentId).map (·.id)).Nodup ∧
    (messages.thread currentId).length ≤ messages.size ∧
    (∀ steps, messages.size ≤ steps →
      walkFrom messages steps [] currentId = (messages.thread currentId).reverse) ∧
    ∀ messages' : MessageMap,
      (∀ key, currentId = some key ∨ (∃ m ∈ messages.thread currentId, m.parentId = some key) →
        messages'.find? key = messages.find? key) →
      messages'.thread currentId = messages.thread currentId := by
  have hclimbs := climbs_walk messages currentId
  have hrev : (messages.thread currentId).reverse = messages.walk currentId :=
    List.reverse_reverse _
  refine ⟨fun path => ?_, ?_, ?_, fun steps hsteps => ?_, fun messages' hagree => ?_⟩
  · rw [isMaximalWalk_iff_climbs, hrev]
    exact ⟨fun h => h.unique hclimbs, fun h => h ▸ hclimbs⟩
  · rw [thread, List.map_reverse]
    exact (List.reverse_perm _).nodup_iff.mpr hclimbs.nodup.1
  · rw [thread, List.length_reverse]
    exact walk_length_le messages currentId
  · rw [hrev]
    exact (climbs_walkFrom List.nodup_nil (List.nil_subset _) hsteps).unique hclimbs
  · refine congrArg List.reverse ((climbs_walk messages' currentId).unique (hclimbs.congr ?_))
    simpa only [thread, List.mem_reverse] using hagree

end MessageMap
end OfflineChat
