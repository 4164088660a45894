import HouseDice.Key

/-!
# The store of accounts

An account holds lamports and data and belongs to a program. The chain keeps
only accounts that hold lamports: every other key names the blank account. A
store lists its accounts once each and in the order of their keys, so two stores
that answer every question alike are the same store.
-/

namespace HouseDice

structure Account where
  lamports : UInt64
  /-- The program that the account belongs to. -/
  owner : Key
  data : Bytes
deriving DecidableEq

/-- What stands under a key that is not in use. -/
def Account.blank : Account := ⟨0, Key.system, []⟩

/-- What remains of an account between transactions: nothing, if it holds no
lamports. -/
def Account.kept (a : Account) : Account := if a.lamports = 0 then blank else a

/-! ## Lists of accounts -/

abbrev Entries := List (Key × Account)

namespace Entries

/-- Every key stands in the list once, and the keys ascend. -/
abbrev Ascending (entries : Entries) : Prop :=
  entries.Pairwise fun a b => a.1.number < b.1.number

def lookup : Entries → Key → Account
  | [], _ => .blank
  | (j, a) :: rest, k => if j = k then a else lookup rest k

def without (k : Key) (entries : Entries) : Entries :=
  entries.filter fun e => e.1 != k

def insert (k : Key) (a : Account) : Entries → Entries
  | [] => [(k, a)]
  | e :: rest =>
    if k.number < e.1.number then (k, a) :: e :: rest else e :: insert k a rest

theorem lookup_eq_blank {entries : Entries} {k : Key}
    (h : ∀ e ∈ entries, e.1 ≠ k) : lookup entries k = .blank := by
  induction entries with
  | nil => rfl
  | cons e rest ih =>
    rw [lookup, if_neg (h e List.mem_cons_self)]
    exact ih fun e' he' => h e' (List.mem_cons_of_mem _ he')

theorem lookup_without (entries : Entries) (k j : Key) :
    lookup (without k entries) j
      = if j = k then .blank else lookup entries j := by
  induction entries with
  | nil => simp [without, lookup]
  | cons e rest ih =>
    have htail : without k (e :: rest)
        = if e.1 = k then without k rest else e :: without k rest := by
      by_cases he : e.1 = k <;> simp [without, he]
    rw [htail]
    by_cases he : e.1 = k
    · rw [if_pos he, ih]
      by_cases hj : j = k
      · rw [if_pos hj, if_pos hj]
      · rw [if_neg hj, if_neg hj, lookup, if_neg fun h => hj (h.symm.trans he)]
    · rw [if_neg he, lookup, lookup, ih]
      by_cases hj : j = k
      · rw [if_pos hj, if_pos hj, if_neg fun h => he (h.trans hj)]
      · rw [if_neg hj, if_neg hj]

theorem mem_insert {k : Key} {a : Account} {entries : Entries}
    {e : Key × Account} :
    e ∈ insert k a entries ↔ e = (k, a) ∨ e ∈ entries := by
  induction entries with
  | nil => simp [insert]
  | cons x rest ih =>
    rw [insert]
    split
    next h => simp
    next h => simp [ih, or_left_comm]

theorem lookup_insert {entries : Entries} {k : Key} (a : Account) (j : Key)
    (h : ∀ e ∈ entries, e.1 ≠ k) :
    lookup (insert k a entries) j = if j = k then a else lookup entries j := by
  induction entries with
  | nil =>
    by_cases hj : j = k
    · simp [insert, lookup, hj]
    · simp [insert, lookup, hj, Ne.symm hj]
  | cons e rest ih =>
    rw [insert]
    split
    next hlt =>
      rw [lookup]
      by_cases hj : j = k
      · rw [if_pos hj, if_pos hj.symm]
      · rw [if_neg hj, if_neg fun hk => hj hk.symm]
    next hlt =>
      rw [lookup, lookup, ih fun e' he' => h e' (List.mem_cons_of_mem _ he')]
      by_cases hj : j = k
      · rw [if_pos hj, if_neg fun he => h e List.mem_cons_self (he.trans hj)]
        rw [if_pos hj]
      · rw [if_neg hj, if_neg hj]

theorem insert_ascending {entries : Entries} {k : Key} (a : Account)
    (hsorted : entries.Ascending) (h : ∀ e ∈ entries, e.1 ≠ k) :
    (insert k a entries).Ascending := by
  induction entries with
  | nil => simp [insert]
  | cons e rest ih =>
    obtain ⟨hfirst, hrest⟩ := List.pairwise_cons.1 hsorted
    rw [insert]
    split
    next hlt =>
      refine List.pairwise_cons.2 ⟨fun e' he' => ?_, hsorted⟩
      rcases List.mem_cons.1 he' with rfl | he'
      · exact hlt
      · exact Nat.lt_trans hlt (hfirst e' he')
    next hlt =>
      refine List.pairwise_cons.2 ⟨fun e' he' => ?_,
        ih hrest fun e' he' => h e' (List.mem_cons_of_mem _ he')⟩
      rcases mem_insert.1 he' with rfl | he'
      · have hne : e.1.number ≠ k.number := fun heq =>
          h e List.mem_cons_self (Key.number_inj.1 heq)
        show e.1.number < k.number
        omega
      · exact hfirst e' he'

theorem fst_ne_of_mem_without {entries : Entries} {k : Key} {e : Key × Account}
    (h : e ∈ without k entries) : e.1 ≠ k := by
  simpa using (List.mem_filter.1 h).2

theorem lookup_eq_blank_of_lt {entries : Entries} {e : Key × Account} {k : Key}
    (hsorted : Ascending (e :: entries)) (hk : k.number ≤ e.1.number) :
    lookup entries k = .blank := by
  apply lookup_eq_blank
  rintro e' he' rfl
  have := (List.pairwise_cons.1 hsorted).1 e' he'
  omega

end Entries

/-! ## Reading and writing -/

/-- The accounts that hold lamports, in the order of their keys. -/
structure Store where
  entries : Entries
  ascending : entries.Ascending
  funded : ∀ e ∈ entries, e.2.lamports ≠ 0

namespace Store

open Entries

def empty : Store := ⟨[], .nil, by simp⟩

def get (s : Store) (k : Key) : Account := lookup s.entries k

def set (s : Store) (k : Key) (a : Account) : Store :=
  if h : a.lamports = 0 then
    { entries := without k s.entries
      ascending := s.ascending.sublist List.filter_sublist
      funded := fun e he => s.funded e (List.mem_filter.1 he).1 }
  else
    { entries := insert k a (without k s.entries)
      ascending := insert_ascending a (s.ascending.sublist List.filter_sublist)
        fun _ => fst_ne_of_mem_without
      funded := fun e he => by
        rcases mem_insert.1 he with rfl | he
        · exact h
        · exact s.funded e (List.mem_filter.1 he).1 }

theorem get_set (s : Store) (k j : Key) (a : Account) :
    (s.set k a).get j = if j = k then a.kept else s.get j := by
  unfold set get Account.kept
  split
  next h =>
    rw [lookup_without]
  next h =>
    rw [lookup_insert a j fun _ => fst_ne_of_mem_without, lookup_without]
    split <;> rfl

theorem kept_get (s : Store) (k : Key) : (s.get k).kept = s.get k := by
  have hfunded := s.funded
  unfold get
  generalize s.entries = entries at hfunded
  induction entries with
  | nil => rfl
  | cons e rest ih =>
    rw [lookup]
    split
    next => rw [Account.kept, if_neg (hfunded e List.mem_cons_self)]
    next => exact ih fun e' he' => hfunded e' (List.mem_cons_of_mem _ he')

theorem ext_get {s t : Store} (h : ∀ k, s.get k = t.get k) : s = t := by
  obtain ⟨xs, hxs, hxf⟩ := s
  obtain ⟨ys, hys, hyf⟩ := t
  have hlookup : ∀ k, lookup xs k = lookup ys k := h
  clear h
  have hentries : xs = ys := by
    induction xs generalizing ys with
    | nil =>
      cases ys with
      | nil => rfl
      | cons y ys =>
        have hy := hlookup y.1
        rw [lookup, lookup, if_pos rfl] at hy
        exact absurd (congrArg Account.lamports hy.symm)
          (hyf y List.mem_cons_self)
    | cons x xs ih =>
      cases ys with
      | nil =>
        have hx := hlookup x.1
        rw [lookup, lookup, if_pos rfl] at hx
        exact absurd (congrArg Account.lamports hx) (hxf x List.mem_cons_self)
      | cons y ys =>
        have hkey : x.1 = y.1 := by
          apply Key.number_inj.1
          apply Nat.le_antisymm
          · apply Nat.le_of_not_lt
            intro hlt
            have hy := hlookup y.1
            rw [lookup, if_neg (fun heq => by rw [heq] at hlt; omega),
              lookup_eq_blank_of_lt hxs (Nat.le_of_lt hlt), lookup,
              if_pos rfl] at hy
            exact hyf y List.mem_cons_self (congrArg Account.lamports hy.symm)
          · apply Nat.le_of_not_lt
            intro hlt
            have hx := hlookup x.1
            rw [lookup, if_pos rfl, lookup,
              if_neg (fun heq => by rw [heq] at hlt; omega),
              lookup_eq_blank_of_lt hys (Nat.le_of_lt hlt)] at hx
            exact hxf x List.mem_cons_self (congrArg Account.lamports hx)
        have hvalue : x.2 = y.2 := by
          have hx := hlookup x.1
          rwa [lookup, if_pos rfl, lookup, if_pos hkey.symm] at hx
        have hhead : x = y := Prod.ext hkey hvalue
        subst hhead
        rw [ih (List.pairwise_cons.1 hxs).2
          (fun e he => hxf e (List.mem_cons_of_mem _ he)) ys
          (List.pairwise_cons.1 hys).2
          (fun e he => hyf e (List.mem_cons_of_mem _ he)) ?_]
        intro k
        by_cases hk : x.1 = k
        · have hle : k.number ≤ x.1.number :=
            Nat.le_of_eq (congrArg Key.number hk.symm)
          rw [lookup_eq_blank_of_lt hxs hle, lookup_eq_blank_of_lt hys hle]
        · have := hlookup k
          rwa [lookup, if_neg hk, lookup, if_neg hk] at this
  subst hentries
  rfl

/-! ## Comparing -/

/-- What stands in the second store under each key where the two differ, in
order. -/
def changes (s t : Store) : Entries :=
  let both := t.entries.foldl (fun u e => u.set e.1 e.2) s
  both.entries.filterMap fun e =>
    if s.get e.1 = t.get e.1 then none else some (e.1, t.get e.1)

end Store

end HouseDice
