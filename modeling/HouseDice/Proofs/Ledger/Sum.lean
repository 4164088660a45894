import HouseDice.Ledger.Run
import Mathlib.Algebra.GroupWithZero.Nat

/-!
# Sums over a ledger

Lamports, stakes and numbers of bets are all added up the same way: every
account has a weight, the blank account has none, and the ledger adds up the
weights of the accounts it holds. What such a sum is worth is one equation: a
write takes the old account's weight out and puts the new one's in.

Writing blanks over some accounts leaves what the others weigh. That is why no
choice of accounts weighs more than the whole ledger, which is how a bound on
all lamports turns into a bound on the lamports of the few accounts that one
call moves.
-/

namespace HouseDice

/-! ## Lists of accounts -/

namespace Entries

/-- What the accounts of a list weigh together. -/
def sum (f : Account → Nat) (entries : Entries) : Nat :=
  (entries.map fun e => f e.2).sum

theorem sum_insert (f : Account → Nat) (k : Key) (a : Account)
    (entries : Entries) :
    sum f (insert k a entries) = f a + sum f entries := by
  induction entries with
  | nil => rfl
  | cons e rest ih =>
    rw [insert]
    split
    next => rfl
    next =>
      simp only [sum, List.map_cons, List.sum_cons] at ih ⊢
      omega

/-- Taking a key out takes out what its account weighs. -/
theorem sum_without {f : Account → Nat} (hf : f .blank = 0) {entries : Entries}
    (hsorted : entries.Ascending) (k : Key) :
    sum f (without k entries) + f (lookup entries k) = sum f entries := by
  induction entries with
  | nil => simp [sum, without, lookup, hf]
  | cons e rest ih =>
    obtain ⟨hfirst, hrest⟩ := List.pairwise_cons.1 hsorted
    have ih := ih hrest
    by_cases hk : e.1 = k
    · -- The key stands here, and the order keeps it out of the rest.
      have hgone : ∀ e' ∈ rest, e'.1 ≠ k := by
        rintro e' he' rfl
        have hlt := hfirst e' he'
        rw [hk] at hlt
        omega
      have hnone : lookup rest k = .blank := lookup_eq_blank hgone
      rw [hnone, hf] at ih
      have hhead : without k (e :: rest) = without k rest := by
        simp [without, hk]
      rw [hhead, lookup, if_pos hk]
      simp only [sum, List.map_cons, List.sum_cons] at ih ⊢
      omega
    · have hhead : without k (e :: rest) = e :: without k rest := by
        simp [without, hk]
      rw [hhead, lookup, if_neg hk]
      simp only [sum, List.map_cons, List.sum_cons] at ih ⊢
      omega

theorem lookup_cons_of_ne {e : Key × Account} {rest : Entries} {k : Key}
    (hk : e.1 ≠ k) :
    lookup (e :: rest) k = lookup rest k := by
  rw [lookup, if_neg hk]

theorem lookup_of_mem {entries : Entries} (hsorted : entries.Ascending)
    {e : Key × Account} (he : e ∈ entries) : lookup entries e.1 = e.2 := by
  induction entries with
  | nil => cases he
  | cons first rest ih =>
    obtain ⟨hfirst, hrest⟩ := List.pairwise_cons.1 hsorted
    rcases List.mem_cons.1 he with rfl | he
    · rw [lookup, if_pos rfl]
    · have hne : first.1 ≠ e.1 := by
        intro heq
        have hlt := hfirst e he
        rw [heq] at hlt
        omega
      rw [lookup_cons_of_ne hne, ih hrest he]

/-- Lists in which every key weighs the same weigh the same. -/
theorem sum_congr {f : Account → Nat} (hf : f .blank = 0) {xs ys : Entries}
    (hxs : xs.Ascending) (hys : ys.Ascending)
    (h : ∀ k, f (lookup xs k) = f (lookup ys k)) :
    sum f xs = sum f ys := by
  induction xs generalizing ys with
  | nil =>
    induction ys with
    | nil => rfl
    | cons y ys ih =>
      have hhead : f y.2 = 0 := by
        have hy := h y.1
        rw [lookup, lookup, if_pos rfl, hf] at hy
        exact hy.symm
      have hrest : 0 = sum f ys := by
        refine ih (List.pairwise_cons.1 hys).2 fun k => ?_
        by_cases hk : y.1 = k
        · rw [lookup_eq_blank_of_lt hys
            (Nat.le_of_eq (congrArg Key.number hk.symm))]
          rfl
        · rw [h k, lookup_cons_of_ne hk]
      simp only [sum, List.map_cons, List.sum_cons, List.map_nil,
        List.sum_nil] at hrest ⊢
      omega
  | cons x xs ih =>
    -- The first key is taken out of both lists.
    have hout := sum_without hf hys x.1
    have hhead : f x.2 = f (lookup ys x.1) := by
      have hx := h x.1
      rwa [lookup, if_pos rfl] at hx
    have hrest : sum f xs = sum f (without x.1 ys) := by
      refine ih (List.pairwise_cons.1 hxs).2
        (hys.sublist List.filter_sublist) fun k => ?_
      rw [lookup_without]
      by_cases hk : k = x.1
      · rw [if_pos hk,
          lookup_eq_blank_of_lt hxs (Nat.le_of_eq (congrArg Key.number hk))]
      · rw [if_neg hk, ← h k, lookup_cons_of_ne (Ne.symm hk)]
    simp only [sum, List.map_cons, List.sum_cons] at hrest hout ⊢
    omega

end Entries

/-! ## One write -/

def Store.sum (s : Store) (f : Account → Nat) : Nat := Entries.sum f s.entries

/-- A write takes the old weight out and puts the new one in. -/
theorem Store.sum_set {f : Account → Nat} (hf : f .blank = 0) (s : Store)
    (k : Key) (a : Account) :
    (s.set k a).sum f + f (s.get k) = s.sum f + f a.kept := by
  have hout := Entries.sum_without hf s.ascending k
  unfold Store.sum Store.set Store.get Account.kept
  split
  next h =>
    rw [hout, hf]
    omega
  next h =>
    simp only [Entries.sum_insert]
    omega

namespace Ledger

def sum (L : Ledger) (f : Account → Nat) : Nat := L.accounts.sum f

def total (L : Ledger) : Nat := L.sum fun a => a.lamports.toNat

@[simp]
theorem total_atSlot (L : Ledger) (slot : UInt64) :
    (L.atSlot slot).total = L.total := rfl

theorem sum_set {f : Account → Nat} (hf : f .blank = 0) (L : Ledger) (k : Key)
    (a : Account) :
    (L.set k a).sum f + f (L.get k) = L.sum f + f a.kept :=
  L.accounts.sum_set hf k a

theorem sum_congr {f : Account → Nat} (hf : f .blank = 0) {L M : Ledger}
    (h : ∀ k, f (L.get k) = f (M.get k)) : L.sum f = M.sum f :=
  Entries.sum_congr hf L.accounts.ascending M.accounts.ascending h

theorem sum_eq_zero {f : Account → Nat} {L : Ledger} (h : ∀ k, f (L.get k) = 0)
    (hf : f .blank = 0) : L.sum f = 0 := by
  have hempty : ∀ k, f (L.get k) = f (Ledger.get ⟨L.slot, Store.empty⟩ k) := by
    intro k
    rw [h k]
    exact hf.symm
  rw [sum_congr hf hempty]
  rfl

/-! ## Several accounts -/

/-- Some accounts weigh no more than all of them. -/
theorem sum_get_le {f : Account → Nat} (hf : f .blank = 0) (L : Ledger)
    {keys : List Key} (hkeys : keys.Nodup) :
    (keys.map fun k => f (L.get k)).sum ≤ L.sum f := by
  induction keys generalizing L with
  | nil => exact Nat.zero_le _
  | cons k rest ih =>
    rw [List.nodup_cons] at hkeys
    have hone := sum_set hf L k .blank
    have hrest := ih (L.set k .blank) hkeys.2
    have hsame : (rest.map fun j => f ((L.set k .blank).get j))
        = rest.map fun j => f (L.get j) := by
      apply List.map_congr_left
      intro j hj
      have hne : j ≠ k := by
        rintro rfl
        exact hkeys.1 hj
      rw [get_set, if_neg hne]
    have hzero : f Account.blank.kept = 0 := hf
    rw [hsame] at hrest
    simp only [List.map_cons, List.sum_cons]
    omega

/-- Two ledgers that weigh the same off some keys differ by what those keys
weigh. -/
theorem sum_of_outside {f : Account → Nat} (hf : f .blank = 0) {L M : Ledger}
    {keys : List Key} (hkeys : keys.Nodup)
    (hout : ∀ k ∉ keys, f (M.get k) = f (L.get k)) :
    M.sum f + (keys.map fun k => f (L.get k)).sum
      = L.sum f + (keys.map fun k => f (M.get k)).sum := by
  induction keys generalizing M with
  | nil => exact sum_congr hf fun k => hout k (by simp)
  | cons k rest ih =>
    rw [List.nodup_cons] at hkeys
    -- The first key is written back to what it was.
    have hkept : (L.get k).kept = L.get k := L.accounts.kept_get k
    have hone := sum_set hf M k (L.get k)
    have hrest := ih (M := M.set k (L.get k)) hkeys.2 fun j hj => by
      rw [get_set]
      by_cases hjk : j = k
      · rw [if_pos hjk, hkept, hjk]
      · rw [if_neg hjk]
        exact hout j (by simp [hjk, hj])
    have hsame : (rest.map fun j => f ((M.set k (L.get k)).get j))
        = rest.map fun j => f (M.get j) := by
      apply List.map_congr_left
      intro j hj
      have hne : j ≠ k := by
        rintro rfl
        exact hkeys.1 hj
      rw [get_set, if_neg hne]
    rw [hkept] at hone
    rw [hsame] at hrest
    simp only [List.map_cons, List.sum_cons]
    omega

theorem lamports_le_total (L : Ledger) {keys : List Key} (hkeys : keys.Nodup) :
    (keys.map fun k => (L.get k).lamports.toNat).sum ≤ L.total :=
  sum_get_le (f := fun a => a.lamports.toNat) rfl L hkeys

end Ledger

end HouseDice
