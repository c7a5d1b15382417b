import Mathlib.Data.List.Basic
import OfflineChat.Proofs.WriteAnnouncements

/-! # The order of messages

The messages of a chat are read by time, and those of one time in the order of
the table, which is that of their first insertion (`messageRows_pairwise`,
`filter_messageRows_time`).  What is last in that order among some rows of a chat
is the newest of them (`getLast?_messageRows_iff`); the message that the next one
is put under is the newest that has not failed (`isNextParent_latest`).
-/
namespace OfflineChat

theorem MessageRow.status_toMessage_eq_failed (r : MessageRow) :
    r.toMessage.status = .failed ↔ r.isFailed = true := by
  show MessageStatus.ofText r.status = .failed ↔ (r.status == "failed") = true
  rw [MessageStatus.ofText, beq_iff_eq]
  split
  · rename_i h
    simp [h]
  · split <;> simp_all

namespace Cache

/-- A row is the newest of some rows: none of them is later, and the others of its time come before
it. -/
def Newest (rows : List MessageRow) (r : MessageRow) : Prop :=
  ∃ before after, rows = before ++ r :: after ∧
    (∀ x ∈ before, x.timestamp ≤ r.timestamp) ∧ ∀ x ∈ after, x.timestamp < r.timestamp

/-- The message rows of a chat that have not failed, in the order of the table. -/
def deliverableRows (c : Cache) (chatId : String) : List MessageRow :=
  (c.chatRows chatId).filter (!·.isFailed)

/-- What the next message of a chat is put under: the newest of its messages that has not failed, or
nothing if there is none. -/
inductive IsNextParent (c : Cache) (chatId : String) : Option String → Prop
  | first (h : c.deliverableRows chatId = []) : IsNextParent c chatId none
  | under {r : MessageRow} (h : Newest (c.deliverableRows chatId) r) :
    IsNextParent c chatId (some r.id)

theorem messageRows_perm (c : Cache) (chatId : String) :
    (c.messageRows chatId).Perm (c.chatRows chatId) := List.mergeSort_perm _ _

theorem mem_messagesOf {c : Cache} {chatId : String} {m : CachedMessage}
    (h : m ∈ c.messagesOf chatId) : ∃ r ∈ c.chatRows chatId, r.toMessage = m := by
  obtain ⟨r, hr, rfl⟩ := List.mem_map.mp h
  exact ⟨r, (c.messageRows_perm chatId).mem_iff.mp hr, rfl⟩

theorem timestamp_trans (a b d : MessageRow) (hab : decide (a.timestamp ≤ b.timestamp) = true)
    (hbd : decide (b.timestamp ≤ d.timestamp) = true) :
    decide (a.timestamp ≤ d.timestamp) = true :=
  decide_eq_true (Int.le_trans (of_decide_eq_true hab) (of_decide_eq_true hbd))

theorem timestamp_total (a b : MessageRow) :
    (decide (a.timestamp ≤ b.timestamp) || decide (b.timestamp ≤ a.timestamp)) = true := by
  simpa using Int.le_total a.timestamp b.timestamp

/-- **Messages are read by time.** -/
theorem messageRows_pairwise (c : Cache) (chatId : String) :
    (c.messageRows chatId).Pairwise (fun a b => a.timestamp ≤ b.timestamp) :=
  (List.pairwise_mergeSort timestamp_trans timestamp_total _).imp of_decide_eq_true

/-- **Messages of one time are read in the order of the table.** -/
theorem filter_messageRows_time (c : Cache) (chatId : String) (t : Int) :
    (c.messageRows chatId).filter (·.timestamp == t) =
      (c.chatRows chatId).filter (·.timestamp == t) := by
  have hsame : ((c.chatRows chatId).filter (·.timestamp == t)).Pairwise
      (fun a b => decide (a.timestamp ≤ b.timestamp) = true) := by
    refine List.pairwise_of_forall_mem_list fun a ha b hb => decide_eq_true ?_
    exact Int.le_of_eq
      ((eq_of_beq (List.mem_filter.mp ha).2).trans (eq_of_beq (List.mem_filter.mp hb).2).symm)
  have hsub := (List.sublist_mergeSort timestamp_trans timestamp_total hsame
    List.filter_sublist).filter (·.timestamp == t)
  rw [List.filter_filter] at hsub
  simp only [Bool.and_self] at hsub
  exact (hsub.eq_of_length ((c.messageRows_perm chatId).filter _).length_eq.symm).symm

theorem mem_iff_of_filter_time {rows rows' : List MessageRow}
    (h : ∀ t, rows.filter (·.timestamp == t) = rows'.filter (·.timestamp == t)) (x : MessageRow) :
    x ∈ rows ↔ x ∈ rows' := by
  have hx := congrArg (x ∈ ·) (h x.timestamp)
  simpa using hx

/-- Rows by time are known by the rows of each time. -/
theorem eq_of_filter_time {rows rows' : List MessageRow}
    (h : rows.Pairwise (·.timestamp ≤ ·.timestamp))
    (h' : rows'.Pairwise (·.timestamp ≤ ·.timestamp))
    (htime : ∀ t, rows.filter (·.timestamp == t) = rows'.filter (·.timestamp == t)) :
    rows = rows' := by
  have hmem := mem_iff_of_filter_time htime
  induction rows generalizing rows' with
  | nil =>
    cases rows' with
    | nil => rfl
    | cons b rest' => exact absurd ((hmem b).mpr (List.mem_cons_self ..)) List.not_mem_nil
  | cons a rest ih =>
    cases rows' with
    | nil => exact absurd ((hmem a).mp (List.mem_cons_self ..)) List.not_mem_nil
    | cons b rest' =>
      obtain ⟨ha, hrest⟩ := List.pairwise_cons.mp h
      obtain ⟨hb, hrest'⟩ := List.pairwise_cons.mp h'
      -- the first rows are of one time, so they are the first rows of that time
      have hab : a.timestamp ≤ b.timestamp := by
        rcases List.mem_cons.mp ((hmem b).mpr (List.mem_cons_self ..)) with rfl | hin
        · exact Int.le_refl _
        · exact ha b hin
      have hba : b.timestamp ≤ a.timestamp := by
        rcases List.mem_cons.mp ((hmem a).mp (List.mem_cons_self ..)) with rfl | hin
        · exact Int.le_refl _
        · exact hb a hin
      have hsame := Int.le_antisymm hab hba
      have hfirst := htime a.timestamp
      rw [List.filter_cons_of_pos (by simp), List.filter_cons_of_pos (by simp [hsame])] at hfirst
      obtain ⟨rfl, hlater⟩ := List.cons_eq_cons.mp hfirst
      have hothers (t : Int) : rest.filter (·.timestamp == t) = rest'.filter (·.timestamp == t) := by
        by_cases ht : a.timestamp = t
        · exact ht ▸ hlater
        · have hall := htime t
          rwa [List.filter_cons_of_neg (by simpa using ht),
            List.filter_cons_of_neg (by simpa using ht)] at hall
      exact congrArg _ (ih hrest hrest' hothers (mem_iff_of_filter_time hothers))

/-- **The order in which some messages are read is a matter of their own rows alone.** -/
theorem filter_messageRows_congr {c d : Cache} {chatId : String} {p : MessageRow → Bool}
    (h : (d.chatRows chatId).filter p = (c.chatRows chatId).filter p) :
    (d.messageRows chatId).filter p = (c.messageRows chatId).filter p := by
  refine eq_of_filter_time ((d.messageRows_pairwise chatId).filter p)
    ((c.messageRows_pairwise chatId).filter p) fun t => ?_
  rw [List.filter_comm, filter_messageRows_time, List.filter_comm, h, List.filter_comm,
    ← filter_messageRows_time, List.filter_comm]

/-- Messages of one time are read in the order of the table. -/
theorem filter_messageRows_of_time {c : Cache} {chatId : String} {p : MessageRow → Bool} {t : Int}
    (h : ∀ r ∈ (c.chatRows chatId).filter p, r.timestamp = t) :
    (c.messageRows chatId).filter p = (c.chatRows chatId).filter p := by
  refine eq_of_filter_time ((c.messageRows_pairwise chatId).filter p) ?_ fun t => ?_
  · exact List.pairwise_of_forall_mem_list fun a ha b hb =>
      Int.le_of_eq ((h a ha).trans (h b hb).symm)
  · rw [List.filter_comm, filter_messageRows_time, List.filter_comm]

/-- Messages whose times do not go back are read in the order of the table. -/
theorem messageRows_of_sorted {c : Cache} {chatId : String}
    (h : (c.chatRows chatId).Pairwise (·.timestamp ≤ ·.timestamp)) :
    c.messageRows chatId = c.chatRows chatId :=
  List.mergeSort_of_pairwise (h.imp decide_eq_true)

/-! ## The newest message -/

variable {c : Cache} {chatId : String} {rows : List MessageRow} {r r' : MessageRow}

theorem Newest.mem (h : Newest rows r) : r ∈ rows := by
  obtain ⟨before, after, rfl, -, -⟩ := h
  simp

theorem Newest.le (h : Newest rows r) {x : MessageRow} (hx : x ∈ rows) :
    x.timestamp ≤ r.timestamp := by
  obtain ⟨before, after, rfl, hbefore, hafter⟩ := h
  rcases List.mem_append.mp hx with hx | hx
  · exact hbefore x hx
  · rcases List.mem_cons.mp hx with rfl | hx
    · exact Int.le_refl _
    · exact Int.le_of_lt (hafter x hx)

/-- The newest row is the last of the rows of its time. -/
theorem Newest.getLast?_time (h : Newest rows r) :
    (rows.filter (·.timestamp == r.timestamp)).getLast? = some r := by
  obtain ⟨before, after, rfl, -, hafter⟩ := h
  have hnone : after.filter (·.timestamp == r.timestamp) = [] := by
    refine List.filter_eq_nil_iff.mpr fun x hx heq => ?_
    have hlt := hafter x hx
    rw [eq_of_beq heq] at hlt
    exact Int.lt_irrefl _ hlt
  rw [List.filter_append, List.filter_cons_of_pos (by simp), hnone, List.getLast?_concat]

theorem Newest.unique (h : Newest rows r) (h' : Newest rows r') : r = r' := by
  have htime : r.timestamp = r'.timestamp := Int.le_antisymm (h'.le h.mem) (h.le h'.mem)
  have hlast := h.getLast?_time
  rw [htime, h'.getLast?_time] at hlast
  exact (Option.some.inj hlast).symm

/-- A row that no other is later than, and that is the last of its time, is the newest. -/
theorem newest_of_getLast?_time (hle : ∀ x ∈ rows, x.timestamp ≤ r.timestamp)
    (hlast : (rows.filter (·.timestamp == r.timestamp)).getLast? = some r) : Newest rows r := by
  obtain ⟨init, hinit⟩ := List.getLast?_eq_some_iff.mp hlast
  obtain ⟨l₁, l₂, hrows, -, hl₂⟩ := List.filter_eq_append_iff.mp hinit
  obtain ⟨m₁, after, hsplit, -, -, hafter⟩ := List.filter_eq_cons_iff.mp hl₂
  refine ⟨l₁ ++ m₁, after, by rw [hrows, hsplit, List.append_assoc], ?_, ?_⟩
  · intro x hx
    refine hle x ?_
    rw [hrows, hsplit, ← List.append_assoc]
    exact List.mem_append_left _ hx
  · intro x hx
    have hmem : x ∈ rows := by rw [hrows, hsplit]; simp [hx]
    have hne : x.timestamp ≠ r.timestamp := fun he =>
      List.filter_eq_nil_iff.mp hafter x hx (by simp [he])
    exact Int.lt_iff_le_and_ne.mpr ⟨hle x hmem, hne⟩

/-- **The last message by time, among those of a kind, is the newest of them.** -/
theorem getLast?_messageRows_iff {p : MessageRow → Bool} :
    ((c.messageRows chatId).filter p).getLast? = some r ↔
      Newest ((c.chatRows chatId).filter p) r := by
  have hperm := (c.messageRows_perm chatId).filter p
  have hnewest : ∀ {r}, ((c.messageRows chatId).filter p).getLast? = some r →
      Newest ((c.chatRows chatId).filter p) r := by
    intro r h
    obtain ⟨init, hinit⟩ := List.getLast?_eq_some_iff.mp h
    have hsorted := (c.messageRows_pairwise chatId).filter p
    rw [hinit] at hsorted
    refine newest_of_getLast?_time (fun x hx => ?_) ?_
    · have hx' := hperm.mem_iff.mpr hx
      rw [hinit] at hx'
      rcases List.mem_append.mp hx' with hx' | hx'
      · exact (List.pairwise_append.mp hsorted).2.2 x hx' r (List.mem_singleton_self r)
      · exact Int.le_of_eq (congrArg MessageRow.timestamp (List.mem_singleton.mp hx'))
    · -- both orders agree on the rows of one time
      have htime := congrArg (List.filter p) (filter_messageRows_time c chatId r.timestamp)
      rw [List.filter_filter, List.filter_filter] at htime
      simp only [Bool.and_comm (p _)] at htime
      rw [List.filter_filter, ← htime, ← List.filter_filter, hinit, List.filter_append]
      simp
  refine ⟨hnewest, fun h => ?_⟩
  cases hlast : ((c.messageRows chatId).filter p).getLast? with
  | none =>
    rw [List.getLast?_eq_none_iff] at hlast
    rw [hlast] at hperm
    exact absurd (hperm.mem_iff.mpr h.mem) List.not_mem_nil
  | some r' => rw [(hnewest hlast).unique h]

/-- The latest message of a chat is one that has not failed. -/
theorem exists_of_latestMessageOf {id : String} (h : id ∈ (c.latestMessageOf chatId).map (·.id)) :
    ∃ r ∈ c.chatRows chatId, r.id = id ∧ r.isFailed = false := by
  rw [latestMessageOf, Option.map_map] at h
  obtain ⟨r, hr, rfl⟩ := Option.map_eq_some_iff.mp h
  obtain ⟨hin, hfailed⟩ := List.mem_filter.mp (List.mem_of_getLast? hr)
  exact ⟨r, (c.messageRows_perm chatId).mem_iff.mp hin, rfl, by simpa using hfailed⟩

/-- **The latest message of a chat is the newest that has not failed.** -/
theorem isNextParent_latest (c : Cache) (chatId : String) :
    c.IsNextParent chatId ((c.latestMessageOf chatId).map (·.id)) := by
  unfold latestMessageOf
  cases hlast : ((c.messageRows chatId).filter (!·.isFailed)).getLast? with
  | none =>
    rw [List.getLast?_eq_none_iff] at hlast
    have hperm := (c.messageRows_perm chatId).filter (!·.isFailed)
    rw [hlast] at hperm
    exact .first hperm.nil_eq.symm
  | some r => exact .under (getLast?_messageRows_iff.mp hlast)

end Cache
end OfflineChat
