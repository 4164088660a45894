import HouseDice.Call.Basic
import HouseDice.Pool
import HouseDice.Proofs.Ledger.Sum

/-!
# Pools and bets on a ledger

An account of the program is a pool or a bet by what its data begins with. The
tags of the two records differ, so no account is both, and an account of another
owner is neither, whatever its data says. Reading a record looks at the owner
and the data only: lamports come and go without a pool or a bet noticing.

`betsOn` collects the bets against one pool. What they add up to, under any
measure of a bet, is a sum over the ledger in the sense of `Ledger.sum`, which
is how the counters of a pool will be compared with the accounts.
-/

namespace HouseDice

variable {α : Type}

/-! ## Records -/

theorem Record.overwrite_of_length_eq (r : Record α) {data : Bytes}
    (h : data.length = r.size) (x : α) : r.overwrite data x = r.encode x := by
  rw [overwrite, ← h, List.drop_length, List.append_nil]

theorem Record.take_tag_encode_append (r : Record α) (x : α) (rest : Bytes) :
    (r.encode x ++ rest).take 8 = r.tag.bytes := by
  rw [encode, List.append_assoc, List.take_left' r.tag.length_eq]

/-- The two kinds of record never read as one another. -/
theorem Record.encode_pool_ne_bet (p : Pool) (b : Bet) (rest rest' : Bytes) :
    Pool.record.encode p ++ rest ≠ Bet.record.encode b ++ rest' := by
  intro h
  have htag := congrArg (List.take 8) h
  rw [take_tag_encode_append, take_tag_encode_append] at htag
  exact absurd htag (by decide)

/-! ## Accounts -/

theorem Key.system_ne_game : Key.system ≠ Key.game := by decide

namespace Account

/-- The record that the program keeps in an account, if it is one of its own. -/
def stored? (r : Record α) (a : Account) : Option α :=
  if a.owner = Key.game then (r.decode a.data).toOption else none

def pool? (a : Account) : Option Pool := a.stored? Pool.record

def bet? (a : Account) : Option Bet := a.stored? Bet.record

theorem stored?_eq_some_iff {r : Record α} {a : Account} {x : α} :
    a.stored? r = some x ↔ a.owner = Key.game ∧ ∃ rest,
      a.data = r.encode x ++ rest := by
  rw [← r.decode_eq_ok_iff, stored?]
  split
  next h => cases r.decode a.data <;> simp [Except.toOption, h]
  next h => simp [h]

theorem owner_of_stored? {r : Record α} {a : Account} {x : α}
    (h : a.stored? r = some x) :
    a.owner = Key.game :=
  (stored?_eq_some_iff.1 h).1

theorem stored?_of_owner_ne {r : Record α} {a : Account}
    (h : a.owner ≠ Key.game) :
    a.stored? r = none := by
  rw [stored?, if_neg h]

/-- What was written by the program is what it reads. -/
theorem stored?_of_data {r : Record α} {a : Account} {x : α}
    (howner : a.owner = Key.game) (hdata : a.data = r.encode x) :
    a.stored? r = some x := by
  refine stored?_eq_some_iff.2 ⟨howner, [], ?_⟩
  rw [hdata, List.append_nil]

theorem bet?_of_pool? {a : Account} {p : Pool} (h : a.pool? = some p) :
    a.bet? = none := by
  obtain ⟨_, rest, hdata⟩ := stored?_eq_some_iff.1 h
  cases hb : a.bet? with
  | none => rfl
  | some b =>
    obtain ⟨_, rest', hdata'⟩ := stored?_eq_some_iff.1 hb
    exact absurd (hdata.symm.trans hdata')
      (Record.encode_pool_ne_bet p b rest rest')

theorem pool?_of_bet? {a : Account} {b : Bet} (h : a.bet? = some b) :
    a.pool? = none := by
  cases hp : a.pool? with
  | none => rfl
  | some p => exact absurd (bet?_of_pool? hp) (by simp [h])

theorem kept_of_lamports_ne {a : Account} (h : a.lamports ≠ 0) :
    a.kept = a := by
  rw [kept, if_neg h]

theorem lamports_kept (a : Account) : a.kept.lamports = a.lamports := by
  unfold kept
  split
  next h => exact h.symm
  next => rfl

/-- Only blank accounts hold no lamports, so one of the program's own holds
some. -/
theorem kept_of_kept {a : Account} (h : a.kept = a)
    (howner : a.owner ≠ Key.system) :
    a.lamports ≠ 0 := by
  intro hzero
  rw [kept, if_pos hzero] at h
  exact howner (congrArg owner h).symm

/-- An account of no program's own stays one when its lamports change. -/
theorem owner_kept_lamports {a : Account} (h : a.owner ≠ Key.game)
    (lamports : UInt64) :
    { a with lamports : Account }.kept.owner ≠ Key.game := by
  unfold kept
  split
  next => exact Key.system_ne_game
  next => exact h

end Account

namespace Account

/-- What an account is apart from its lamports. -/
def content (a : Account) : Key × Bytes := (a.owner, a.data)

/-- What an account is that holds lamports and nothing else. -/
def plain : Key × Bytes := (Key.system, [])

theorem content_eq_plain_iff {a : Account} :
    a.content = plain ↔ a.owner = Key.system ∧ a.data = [] := by
  simp [content, plain]

theorem ext_content {a a' : Account} (hlamports : a.lamports = a'.lamports)
    (hcontent : a.content = a'.content) : a = a' := by
  obtain ⟨lamports, owner, data⟩ := a
  obtain ⟨lamports', owner', data'⟩ := a'
  cases hlamports
  cases hcontent
  rfl

/-- Lamports change nothing else, unless they run out where there is something
to lose. -/
theorem content_kept_lamports {a : Account} {lamports : UInt64}
    (h : lamports ≠ 0 ∨ a.content = plain) :
    { a with lamports : Account }.kept.content = a.content := by
  unfold kept
  split
  next hzero => exact ((h.resolve_left fun hne => hne hzero)).symm
  next => rfl

theorem stored?_congr {a a' : Account} (h : a.content = a'.content)
    (r : Record α) :
    a.stored? r = a'.stored? r := by
  obtain ⟨howner, hdata⟩ := Prod.mk.inj h
  rw [stored?, stored?, howner, hdata]

end Account

/-- A call reads the record that an account of the program holds. -/
theorem View.load_eq_ok_iff {v : View} {r : Record α} {key : Key} {role : Role}
    {x : α} :
    v.load r key role = .ok x ↔ (v key).stored? r = some x := by
  rw [Account.stored?_eq_some_iff, ← r.decode_eq_ok_iff]
  simp only [load, blame, bind_eq_ok_iff, ensure_eq_ok_iff, mapError_eq_ok_iff,
    exists_const]
  constructor
  · intro h
    obtain ⟨_, howner, hdata⟩ := h
    exact ⟨howner, hdata⟩
  · intro h
    obtain ⟨howner, hdata⟩ := h
    refine ⟨?_, howner, hdata⟩
    rintro ⟨hsystem, _⟩
    exact Key.system_ne_game (hsystem.symm.trans howner)

/-! ## Ledgers -/

namespace Ledger

def pool? (L : Ledger) (k : Key) : Option Pool := (L.get k).pool?

def bet? (L : Ledger) (k : Key) : Option Bet := (L.get k).bet?

def content (L : Ledger) (k : Key) : Key × Bytes := (L.get k).content

@[simp]
theorem pool?_atSlot (L : Ledger) (slot : UInt64) (k : Key) :
    (L.atSlot slot).pool? k = L.pool? k := rfl

@[simp]
theorem bet?_atSlot (L : Ledger) (slot : UInt64) (k : Key) :
    (L.atSlot slot).bet? k = L.bet? k := rfl

/-- The bets that an account holds against the pool under a key: one or none. -/
def betsIn (pool : Key) (a : Account) : List Bet :=
  a.bet?.toList.filter fun b => b.pool == pool

/-- The bets against the pool under a key. -/
def betsOn (L : Ledger) (pool : Key) : List Bet :=
  L.accounts.entries.flatMap fun e => betsIn pool e.2

theorem mem_betsIn_iff {pool : Key} {a : Account} {b : Bet} :
    b ∈ betsIn pool a ↔ a.bet? = some b ∧ b.pool = pool := by
  simp [betsIn]

/-- The bets against a pool are those that stand under some key and name it. -/
theorem mem_betsOn_iff {L : Ledger} {pool : Key} {b : Bet} :
    b ∈ L.betsOn pool ↔ ∃ k, L.bet? k = some b ∧ b.pool = pool := by
  constructor
  · intro hb
    obtain ⟨e, he, hb⟩ := List.mem_flatMap.1 hb
    refine ⟨e.1, ?_⟩
    rw [bet?, get, Store.get, Entries.lookup_of_mem L.accounts.ascending he]
    exact mem_betsIn_iff.1 hb
  · intro h
    obtain ⟨k, hb, hpool⟩ := h
    -- A blank account is no bet, so the key is in the list.
    have hmem : ∃ e ∈ L.accounts.entries, e.1 = k := by
      refine Classical.byContradiction fun hnone => ?_
      have hblank : L.get k = .blank :=
        Entries.lookup_eq_blank fun e he heq => hnone ⟨e, he, heq⟩
      rw [bet?, hblank] at hb
      cases hb
    obtain ⟨e, he, rfl⟩ := hmem
    rw [bet?, get, Store.get,
      Entries.lookup_of_mem L.accounts.ascending he] at hb
    exact List.mem_flatMap.2 ⟨e, he, mem_betsIn_iff.2 ⟨hb, hpool⟩⟩

theorem kept_get (L : Ledger) (k : Key) : (L.get k).kept = L.get k :=
  L.accounts.kept_get k

theorem lamports_ne_of_owner {L : Ledger} {k : Key}
    (h : (L.get k).owner = Key.game) :
    (L.get k).lamports ≠ 0 :=
  Account.kept_of_kept (L.kept_get k) (by rw [h]; exact Key.system_ne_game.symm)

/-- What a measure of bets gives for the bets of one account. -/
def tallyIn (pool : Key) (measure : Bet → Nat) (a : Account) : Nat :=
  ((betsIn pool a).map measure).sum

/-- What a measure of bets adds up to over the bets against a pool. -/
def tally (L : Ledger) (pool : Key) (measure : Bet → Nat) : Nat :=
  ((L.betsOn pool).map measure).sum

theorem tally_eq_sum (L : Ledger) (pool : Key) (measure : Bet → Nat) :
    L.tally pool measure = L.sum (tallyIn pool measure) := by
  unfold tally betsOn sum Store.sum Entries.sum tallyIn
  induction L.accounts.entries with
  | nil => rfl
  | cons e rest ih =>
    rw [List.flatMap_cons, List.map_append, List.sum_append, ih]
    rfl

theorem tallyIn_of_bet? {pool : Key} {measure : Bet → Nat} {a : Account}
    {b : Bet} (h : a.bet? = some b) :
    tallyIn pool measure a = if b.pool = pool then measure b else 0 := by
  by_cases hpool : b.pool = pool
  · simp [tallyIn, betsIn, h, hpool]
  · simp [tallyIn, betsIn, h, hpool]

theorem tallyIn_of_none {pool : Key} {measure : Bet → Nat} {a : Account}
    (h : a.bet? = none) :
    tallyIn pool measure a = 0 := by
  simp [tallyIn, betsIn, h]

theorem tallyIn_congr {a a' : Account} (h : a.bet? = a'.bet?) (pool : Key)
    (measure : Bet → Nat) :
    tallyIn pool measure a = tallyIn pool measure a' := by
  rw [tallyIn, tallyIn, betsIn, betsIn, h]

/-- One bet counts for no more than all. -/
theorem measure_le_tally {L : Ledger} {k : Key} {b : Bet}
    (h : L.bet? k = some b) (measure : Bet → Nat) :
    measure b ≤ L.tally b.pool measure := by
  have hkeys : [k].Nodup := by simp
  have hle :=
    sum_get_le (tallyIn_of_none rfl : tallyIn b.pool measure .blank = 0) L hkeys
  have hone : tallyIn b.pool measure (L.get k) = measure b := by
    rw [tallyIn_of_bet? h, if_pos rfl]
  rw [tally_eq_sum]
  simpa [hone] using hle

end Ledger

end HouseDice
