import HouseDice.Ledger.Run

/-!
# Writes to a ledger

A call works on a view and writes back the accounts that it named. What it
leaves is easier to say the other way round, as a short list of new accounts put
into the ledger before it. The two agree if the list has every key once, the
call named all of them, and the view differs from the ledger nowhere else.
-/

namespace HouseDice.Ledger

/-- The ledger with other accounts under some keys. -/
def setAll (L : Ledger) : Entries → Ledger
  | [] => L
  | (k, a) :: rest => (L.set k a).setAll rest

@[simp]
theorem slot_setAll (L : Ledger) (changes : Entries) :
    (L.setAll changes).slot = L.slot := by
  induction changes generalizing L with
  | nil => rfl
  | cons e rest ih => exact ih (L.set e.1 e.2)

theorem get_setAll_of_not_mem (L : Ledger) {changes : Entries} {k : Key}
    (hk : k ∉ changes.map Prod.fst) : (L.setAll changes).get k = L.get k := by
  induction changes generalizing L with
  | nil => rfl
  | cons e rest ih =>
    rw [List.map_cons, List.mem_cons, not_or] at hk
    rw [setAll, ih _ hk.2, get_set, if_neg hk.1]

/-- What was written is there, if no later write is to the same key. -/
theorem get_setAll_of_mem (L : Ledger) {changes : Entries} {k : Key}
    {a : Account} (hkeys : (changes.map Prod.fst).Nodup)
    (hk : (k, a) ∈ changes) :
    (L.setAll changes).get k = a.kept := by
  induction changes generalizing L with
  | nil => cases hk
  | cons e rest ih =>
    rw [List.map_cons, List.nodup_cons] at hkeys
    rcases List.mem_cons.1 hk with rfl | hk
    · rw [setAll, get_setAll_of_not_mem _ hkeys.1, get_set, if_pos rfl]
    · exact ih _ hkeys.2 hk

/-- A view that differs from the ledger under some keys only comes to writing
those. -/
theorem commit_eq_setAll {L : Ledger} {keys : List Key} {v : View}
    {changes : Entries} (hkeys : (changes.map Prod.fst).Nodup)
    (hnamed : ∀ k ∈ changes.map Prod.fst, k ∈ keys)
    (hin : ∀ k a, (k, a) ∈ changes → v k = a)
    (hout : ∀ k ∉ changes.map Prod.fst, v k = L.get k) :
    L.commit keys v = L.setAll changes := by
  refine ext_get (by rw [slot_commit, slot_setAll]) fun k => ?_
  rw [get_commit]
  by_cases hk : k ∈ changes.map Prod.fst
  · obtain ⟨e, he, rfl⟩ := List.mem_map.1 hk
    rw [if_pos (hnamed e.1 hk), get_setAll_of_mem L hkeys he, hin e.1 e.2 he]
  · rw [get_setAll_of_not_mem L hk, hout k hk]
    split
    next => exact L.accounts.kept_get k
    next => rfl

end HouseDice.Ledger
