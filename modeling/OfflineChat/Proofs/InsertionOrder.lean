import Mathlib.Data.List.Basic
import OfflineChat.Proofs.TableUpsert

/-! # The order in which rows came

A table says nothing of the time but the order of its rows.  The time is a matter
of the keys that the table had at every moment up to now: a key came at the last
moment at which it was not there (`cameAt`).  From one moment to the next keys may
go, and one may come behind all others (`KeysAdvance`); then the keys of the table
are in the order in which they came (`pairwise_cameAt_cons`).
-/
namespace OfflineChat

/-- Keys from one state to the next: some may go, and one may come behind all others. -/
inductive KeysAdvance {κ : Type} (ks ks' : List κ) : Prop
  | stay (h : ks'.Sublist ks)
  | come {k : κ} (hnew : k ∉ ks) (h : ks' = ks ++ [k])

theorem KeysAdvance.of_eq {κ : Type} {ks ks' : List κ} (h : ks' = ks) : KeysAdvance ks ks' :=
  .stay (h ▸ .refl _)

/-- Rows that are changed under their keys stay. -/
theorem map_key_map {α κ : Type} {key : α → κ} {step : α → α} (h : ∀ r, key (step r) = key r)
    (rows : List α) : (rows.map step).map key = rows.map key := by
  rw [List.map_map]
  exact List.map_congr_left fun r _ => h r

/-- A row that is put keeps the place of the row under its key, or comes behind all others. -/
theorem keysAdvance_upsert {α κ : Type} [DecidableEq κ] {key : α → κ} {merge : α → α → α}
    (hk : KeepsKey key merge) (new : α) (rows : List α) :
    KeysAdvance (rows.map key) ((upsert key merge new rows).map key) := by
  have hkeys := map_key_upsert hk new rows
  split at hkeys
  · exact .of_eq hkeys
  · rename_i hnew
    exact .come hnew hkeys

variable {κ : Type} [DecidableEq κ]

/-- The moment at which what is there now came, among the keys of some moments with the latest
first: the one after the last moment at which it was not there. -/
def cameAt (k : κ) : List (List κ) → Nat
  | [] => 0
  | ks :: past => if k ∈ ks then cameAt k past else past.length + 1

theorem cameAt_le (k : κ) (past : List (List κ)) : cameAt k past ≤ past.length := by
  induction past with
  | nil => exact Nat.le_refl 0
  | cons ks past ih =>
    rw [cameAt]
    split
    · exact Nat.le_succ_of_le ih
    · exact Nat.le_refl _

/-- What stays came when it came. -/
theorem cameAt_cons_of_mem {k : κ} {ks : List κ} (h : k ∈ ks) (past : List (List κ)) :
    cameAt k (ks :: past) = cameAt k past := if_pos h

/-- **Keys stay in the order in which they came.** -/
theorem pairwise_cameAt_cons {ks ks' : List κ} {past : List (List κ)} (h : KeysAdvance ks ks')
    (hks : ks.Pairwise fun j k => cameAt j (ks :: past) < cameAt k (ks :: past)) :
    ks'.Pairwise fun j k => cameAt j (ks' :: ks :: past) < cameAt k (ks' :: ks :: past) := by
  have hsame {j k : κ} (hj : j ∈ ks') (hk : k ∈ ks')
      (hjk : cameAt j (ks :: past) < cameAt k (ks :: past)) :
      cameAt j (ks' :: ks :: past) < cameAt k (ks' :: ks :: past) := by
    rwa [cameAt_cons_of_mem hj, cameAt_cons_of_mem hk]
  cases h with
  | stay hsub => exact (hks.sublist hsub).imp_of_mem fun hj hk => hsame hj hk
  | @come new hnew heq =>
    have hall : (ks ++ [new]).Pairwise fun j k =>
        cameAt j (ks :: past) < cameAt k (ks :: past) := by
      refine List.pairwise_append.mpr ⟨hks, List.pairwise_singleton _ _, fun j hj k hk => ?_⟩
      -- the new one was missing up to now, and the others were there
      obtain rfl := List.mem_singleton.mp hk
      have hlast : cameAt k (ks :: past) = past.length + 1 := if_neg hnew
      have hle := cameAt_le j past
      rw [hlast, cameAt_cons_of_mem hj]
      omega
    exact (heq ▸ hall : List.Pairwise _ _).imp_of_mem fun hj hk => hsame hj hk

end OfflineChat
