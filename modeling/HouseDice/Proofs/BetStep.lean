import HouseDice.Proofs.Ledger.Writes
import HouseDice.Proofs.Sound

/-!
# One step of one bet

Placing a bet and closing it write the same four accounts: the player's
lamports, the pool's counters, the vault's lamports and the bet's own account.
No two of them are one account, because three stand at addresses of different
purposes and the player at none. So such a step is described by what it puts
into each of the four, and nothing else has changed.

That makes one lemma out of the four ways in which soundness could be lost. The
new counters have to differ from the old ones by what the bet's account holds
now and held before, and the vault has to hold what the new counters say.
-/

namespace HouseDice

open Address Ledger

variable {S : Set Purpose} {L : Ledger}

/-! ## Seats -/

/-- The keys that a call about one bet names. -/
structure Seats where
  house : Key
  player : Key
  pool : Key
  vault : Key
  bet : Key

/-- The key that stands in the list of accounts for a role. -/
def Seats.key (x : Seats) : Role → Key
  | .house => x.house
  | .player => x.player
  | .pool => x.pool
  | .vault => x.vault
  | .bet => x.bet
  | .instructions => Key.instructions
  | .systemProgram => Key.system

/-- The addresses that belong to a house and a seed, and a player who has none
of them. -/
structure Seats.Stand (S : Set Purpose) (x : Seats) (seed : Seed) : Prop where
  pool : Of S (.pool x.house) x.pool
  vault : Of S (.vault x.house) x.vault
  bet : Of S (.bet x.vault seed) x.bet
  player : ¬ Derived S x.player

namespace Seats.Stand

variable {x : Seats} {seed : Seed}

theorem player_ne_pool (h : x.Stand S seed) : x.player ≠ x.pool :=
  h.pool.ne_of_not_derived h.player

theorem player_ne_vault (h : x.Stand S seed) : x.player ≠ x.vault :=
  h.vault.ne_of_not_derived h.player

theorem player_ne_bet (h : x.Stand S seed) : x.player ≠ x.bet :=
  h.bet.ne_of_not_derived h.player

theorem pool_ne_vault (h : x.Stand S seed) (hS : Apart S) : x.pool ≠ x.vault :=
  hS.ne h.pool h.vault (by simp)

theorem pool_ne_bet (h : x.Stand S seed) (hS : Apart S) : x.pool ≠ x.bet :=
  hS.ne h.pool h.bet (by simp)

theorem vault_ne_bet (h : x.Stand S seed) (hS : Apart S) : x.vault ≠ x.bet :=
  hS.ne h.vault h.bet (by simp)

theorem nodup (h : x.Stand S seed) (hS : Apart S) :
    [x.player, x.pool, x.vault, x.bet].Nodup := by
  simp [h.player_ne_pool, h.player_ne_vault, h.player_ne_bet,
    h.pool_ne_vault hS, h.pool_ne_bet hS, h.vault_ne_bet hS]

/-- A house has one address for each seed. -/
theorem bet_eq {y : Seats} (h : x.Stand S seed) (h' : y.Stand S seed)
    (hhouse : x.house = y.house) :
    x.bet = y.bet := by
  have hvault := h.vault
  rw [hhouse] at hvault
  have hbet := h.bet
  rw [hvault.unique h'.vault] at hbet
  exact hbet.unique h'.bet

/-- Of two sets of seats at one bet's address only the players may differ. -/
theorem eq_of_bet {y : Seats} {seed' : Seed} (hS : Apart S) (h : x.Stand S seed)
    (h' : y.Stand S seed') (hbet : x.bet = y.bet)
    (hplayer : x.player = y.player) : x = y := by
  have hvault : x.vault = y.vault := hS.bet_inj (hbet ▸ h.bet) h'.bet
  have hhouse : x.house = y.house := hS.vault_inj (hvault ▸ h.vault) h'.vault
  have hpool : x.pool = y.pool := (hhouse ▸ h.pool).unique h'.pool
  cases x
  cases y
  simp only at hbet hplayer hvault hhouse hpool
  rw [hbet, hplayer, hvault, hhouse, hpool]

end Seats.Stand

/-! ## The step -/

def Ledger.betStep (L : Ledger) (x : Seats) (purse vault : UInt64) (q : Pool)
    (bet : Account) : Ledger :=
  L.setAll [(x.player, { L.get x.player with lamports := purse }),
    (x.pool, { L.get x.pool with data := Pool.record.encode q }),
    (x.vault, { L.get x.vault with lamports := vault }), (x.bet, bet)]

theorem Ledger.get_betStep_of_ne (L : Ledger) {x : Seats} {purse vault : UInt64}
    {q : Pool} {bet : Account} {k : Key} (hout : ¬ (k = x.player ∨ k = x.vault))
    (hpool : k ≠ x.pool) (hbet : k ≠ x.bet) :
    (L.betStep x purse vault q bet).get k = L.get k := by
  rw [not_or] at hout
  exact get_setAll_of_not_mem L (by simp [hout, hpool, hbet])

/-- What the step respects of the ledger before it: the pool keeps its identity,
the bet's account held a bet or nothing, and so does the new one. -/
structure Ledger.Steps (S : Set Purpose) (L : Ledger) (x : Seats) (p q : Pool)
    (bet : Account) : Prop where
  seats : ∃ seed, x.Stand S seed
  pool : L.pool? x.pool = some p
  house : q.house = p.house
  bump : q.bump = p.bump
  vault : q.vault = p.vault
  vaultBump : q.vaultBump = p.vaultBump
  before : (L.get x.bet).pool? = none
  after : bet.pool? = none
  kept : bet.kept = bet

namespace Ledger.Steps

variable {x : Seats} {p q : Pool} {purse vault : UInt64} {bet : Account}

theorem keys_nodup (h : L.Steps S x p q bet) (hS : Apart S) :
    [x.player, x.pool, x.vault, x.bet].Nodup := by
  obtain ⟨seed, hx⟩ := h.seats
  exact hx.nodup hS

theorem owner_pool (h : L.Steps S x p q bet) :
    (L.get x.pool).owner = Key.game :=
  Account.owner_of_stored? h.pool

theorem get_player (h : L.Steps S x p q bet) (hS : Apart S) :
    (L.betStep x purse vault q bet).get x.player
      = { L.get x.player with lamports := purse }.kept :=
  get_setAll_of_mem L (h.keys_nodup hS) (by simp)

theorem get_pool (h : L.Steps S x p q bet) (hS : Apart S) :
    (L.betStep x purse vault q bet).get x.pool
      = { L.get x.pool with data := Pool.record.encode q } := by
  have hne : { L.get x.pool with
      data := Pool.record.encode q : Account }.lamports ≠ 0 :=
    lamports_ne_of_owner h.owner_pool
  rw [← Account.kept_of_lamports_ne hne]
  exact get_setAll_of_mem L (h.keys_nodup hS) (by simp)

theorem get_vault (h : L.Steps S x p q bet) (hS : Apart S) :
    (L.betStep x purse vault q bet).get x.vault
      = { L.get x.vault with lamports := vault }.kept :=
  get_setAll_of_mem L (h.keys_nodup hS) (by simp)

theorem get_bet (h : L.Steps S x p q bet) (hS : Apart S) :
    (L.betStep x purse vault q bet).get x.bet = bet := by
  refine Eq.trans ?_ h.kept
  exact get_setAll_of_mem L (h.keys_nodup hS) (by simp)

/-! ### What stands where after it -/

/-- The vault of the call is the vault of the pool. -/
theorem vault_eq (h : L.Steps S x p q bet) (hS : Apart S) (hL : Sound S L) :
    p.house = x.house ∧ p.vault = x.vault := by
  obtain ⟨seed, hx⟩ := h.seats
  have hstands := (hL.pool x.pool p h.pool).stands
  have hhouse : p.house = x.house := hS.pool_inj hstands.pool hx.pool
  have hvault := hstands.vault
  rw [hhouse] at hvault
  exact ⟨hhouse, hvault.unique hx.vault⟩

theorem player_not_game (h : L.Steps S x p q bet) (hL : Sound S L) :
    (L.get x.player).owner ≠ Key.game := by
  obtain ⟨seed, hx⟩ := h.seats
  exact fun howner => hx.player (hL.derived_of_owner howner)

theorem vault_not_game (h : L.Steps S x p q bet) (hS : Apart S)
    (hL : Sound S L) :
    (L.get x.vault).owner ≠ Key.game := by
  rw [← (h.vault_eq hS hL).2, (hL.pool x.pool p h.pool).vaultOwner]
  exact Key.system_ne_game

/-- Neither the player nor the vault is an account of the program, before or
after. -/
theorem outside_not_game (h : L.Steps S x p q bet) (hS : Apart S)
    (hL : Sound S L) (purse vault : UInt64) {k : Key}
    (hk : k = x.player ∨ k = x.vault) :
    (L.get k).owner ≠ Key.game
      ∧ ((L.betStep x purse vault q bet).get k).owner ≠ Key.game := by
  rcases hk with rfl | rfl
  · have hplayer := h.player_not_game hL
    rw [h.get_player hS]
    exact ⟨hplayer, Account.owner_kept_lamports hplayer purse⟩
  · have hvault := h.vault_not_game hS hL
    rw [h.get_vault hS]
    exact ⟨hvault, Account.owner_kept_lamports hvault vault⟩

theorem stored?_outside (h : L.Steps S x p q bet) (hS : Apart S)
    (hL : Sound S L) {α : Type} (r : Record α) (purse vault : UInt64) {k : Key}
    (hk : k = x.player ∨ k = x.vault) :
    (L.get k).stored? r = none
      ∧ ((L.betStep x purse vault q bet).get k).stored? r = none := by
  obtain ⟨hold, hnew⟩ := h.outside_not_game hS hL purse vault hk
  exact ⟨Account.stored?_of_owner_ne hold, Account.stored?_of_owner_ne hnew⟩

theorem pool?_pool (h : L.Steps S x p q bet) (hS : Apart S) :
    (L.betStep x purse vault q bet).pool? x.pool = some q := by
  rw [Ledger.pool?, h.get_pool hS]
  exact Account.stored?_of_data h.owner_pool rfl

theorem pool?_of_ne (h : L.Steps S x p q bet) (hS : Apart S) (hL : Sound S L)
    {k : Key} (hk : k ≠ x.pool) :
    (L.betStep x purse vault q bet).pool? k = L.pool? k := by
  by_cases hout : k = x.player ∨ k = x.vault
  · obtain ⟨hold, hnew⟩ := h.stored?_outside hS hL Pool.record purse vault hout
    exact hnew.trans hold.symm
  · by_cases hbet : k = x.bet
    · rw [Ledger.pool?, Ledger.pool?, hbet, h.get_bet hS, h.before, h.after]
    · rw [Ledger.pool?, Ledger.pool?, L.get_betStep_of_ne hout hk hbet]

theorem bet?_bet (h : L.Steps S x p q bet) (hS : Apart S) :
    (L.betStep x purse vault q bet).bet? x.bet = bet.bet? := by
  rw [Ledger.bet?, h.get_bet hS]

theorem bet?_of_ne (h : L.Steps S x p q bet) (hS : Apart S) (hL : Sound S L)
    {k : Key} (hk : k ≠ x.bet) :
    (L.betStep x purse vault q bet).bet? k = L.bet? k := by
  by_cases hout : k = x.player ∨ k = x.vault
  · obtain ⟨hold, hnew⟩ := h.stored?_outside hS hL Bet.record purse vault hout
    exact hnew.trans hold.symm
  · by_cases hpool : k = x.pool
    · rw [hpool]
      exact (Account.bet?_of_pool? (h.pool?_pool hS)).trans
        (Account.bet?_of_pool? h.pool).symm
    · rw [Ledger.bet?, Ledger.bet?, L.get_betStep_of_ne hout hpool hk]

/-- The bet that leaves and the bet that comes make the whole difference to any
tally. -/
theorem tally_betStep (h : L.Steps S x p q bet) (hS : Apart S) (hL : Sound S L)
    (purse vault : UInt64) (P : Key) (measure : Bet → Nat) :
    (L.betStep x purse vault q bet).tally P measure
      + tallyIn P measure (L.get x.bet)
      = L.tally P measure + tallyIn P measure bet := by
  have hsame : (L.betStep x purse vault q bet).tally P measure
      = (L.set x.bet bet).sum (tallyIn P measure) := by
    rw [tally_eq_sum]
    refine sum_congr (tallyIn_of_none rfl) fun k => tallyIn_congr ?_ P measure
    rw [get_set]
    by_cases hk : k = x.bet
    · rw [if_pos hk, h.kept, hk]
      exact h.bet?_bet hS
    · rw [if_neg hk]
      exact h.bet?_of_ne hS hL hk
  rw [hsame, sum_set (tallyIn_of_none rfl), h.kept, ← tally_eq_sum]

/-- The account of the bet holds no bet against another pool. -/
theorem tallyIn_before (h : L.Steps S x p q bet) (hS : Apart S) (hL : Sound S L)
    {P : Key} (hP : P ≠ x.pool) (measure : Bet → Nat) :
    tallyIn P measure (L.get x.bet) = 0 := by
  cases hb : (L.get x.bet).bet? with
  | none => exact tallyIn_of_none hb
  | some b =>
    obtain ⟨seed, hx⟩ := h.seats
    obtain ⟨p', hp', hstands⟩ := (hL.bet x.bet b hb).pool
    have hpool := (hL.pool b.pool p' hp').stands
    -- The address of the bet names the vault, and the vault names the house.
    have hvault : p'.vault = x.vault := hS.bet_inj hstands.bet hx.bet
    have hhouse : p'.house = x.house := by
      have hof := hpool.vault
      rw [hvault] at hof
      exact hS.vault_inj hof hx.vault
    have hsame : b.pool = x.pool :=
      hL.pool_unique hp' h.pool (hhouse.trans (h.vault_eq hS hL).1.symm)
    rw [tallyIn_of_bet? hb, if_neg fun heq => hP (heq.symm.trans hsame)]

/-- The vault of another pool is none of the four accounts. -/
theorem get_vault_of_ne (h : L.Steps S x p q bet) (hS : Apart S)
    (hL : Sound S L) {P : Key} {p' : Pool} (hP : P ≠ x.pool)
    (hp' : L.pool? P = some p') (purse vault : UInt64) :
    (L.betStep x purse vault q bet).get p'.vault = L.get p'.vault := by
  obtain ⟨seed, hx⟩ := h.seats
  have hstands := (hL.pool P p' hp').stands
  refine L.get_betStep_of_ne ?_ (hS.ne hstands.vault hx.pool (by simp))
    (hS.ne hstands.vault hx.bet (by simp))
  rintro (hplayer | hvault)
  · exact hstands.vault.ne_of_not_derived hx.player hplayer.symm
  · have hof := hstands.vault
    rw [hvault] at hof
    have hhouse : p'.house = x.house := hS.vault_inj hof hx.vault
    exact hP (hL.pool_unique hp' h.pool
      (hhouse.trans (h.vault_eq hS hL).1.symm))

/-- Another pool is none of the four accounts either. -/
theorem get_pool_of_ne (h : L.Steps S x p q bet) (hS : Apart S) (hL : Sound S L)
    {P : Key} {p' : Pool} (hP : P ≠ x.pool) (hp' : L.pool? P = some p')
    (purse vault : UInt64) :
    (L.betStep x purse vault q bet).get P = L.get P := by
  refine L.get_betStep_of_ne ?_ hP ?_
  · intro hout
    exact (h.outside_not_game hS hL purse vault hout).1
      (Account.owner_of_stored? hp')
  · rintro rfl
    exact absurd (h.before.symm.trans hp') (by simp)

/-- Nor is another bet. -/
theorem get_bet_of_ne (h : L.Steps S x p q bet) (hS : Apart S) (hL : Sound S L)
    {B : Key} {b : Bet} (hB : B ≠ x.bet) (hb : L.bet? B = some b)
    (purse vault : UInt64) :
    (L.betStep x purse vault q bet).get B = L.get B := by
  refine L.get_betStep_of_ne ?_ ?_ hB
  · intro hout
    exact (h.outside_not_game hS hL purse vault hout).1
      (Account.owner_of_stored? hb)
  · rintro rfl
    exact absurd ((Account.bet?_of_pool? h.pool).symm.trans hb) (by simp)

end Ledger.Steps

/-- The ledger `M` is `L` after a step of the bet that these seats are about, in
which the pool `p` has become `q`. -/
def Ledger.StepsTo (S : Set Purpose) (L : Ledger) (x : Seats) (p q : Pool)
    (M : Ledger) : Prop :=
  ∃ (purse vault : UInt64) (bet : Account),
    L.Steps S x p q bet ∧ M = L.betStep x purse vault q bet

/-- Under each key there is the same pool after the step, or it is the pool of
the step. -/
theorem Ledger.StepsTo.pool_cases {x : Seats} {p q : Pool} {M : Ledger}
    (h : L.StepsTo S x p q M) (hS : Apart S) (hL : Sound S L) {P : Key}
    {p₀ : Pool} (hp₀ : L.pool? P = some p₀) :
    P = x.pool ∧ p₀ = p ∧ M.pool? P = some q
      ∨ P ≠ x.pool ∧ M.pool? P = some p₀ := by
  obtain ⟨purse, vault, bet, hsteps, rfl⟩ := h
  by_cases hP : P = x.pool
  · subst hP
    exact .inl ⟨rfl, Option.some.inj (hp₀.symm.trans hsteps.pool),
      hsteps.pool?_pool hS⟩
  · exact .inr ⟨hP, (hsteps.pool?_of_ne hS hL hP).trans hp₀⟩

/-! ## Soundness after it -/

/-- What makes a step keep soundness: the counters follow the bet, the vault
holds what they say, and a new bet is one that stands at its address. -/
structure Ledger.Balances (S : Set Purpose) (L : Ledger) (x : Seats) (p : Pool)
    (vault : UInt64) (q : Pool) (bet : Account) : Prop where
  openBets : q.openBets.toNat + tallyIn x.pool (fun _ => 1) (L.get x.bet)
    = p.openBets.toNat + tallyIn x.pool (fun _ => 1) bet
  lockedStakes :
    q.lockedStakes.toNat
      + tallyIn x.pool (fun b => b.amount.toNat) (L.get x.bet)
    = p.lockedStakes.toNat + tallyIn x.pool (fun b => b.amount.toNat) bet
  refunded : q.totalRefunded.toNat + q.lockedStakes.toNat ≤ q.totalWagered.toNat
  backed : Call.rentFloor.toNat + q.lockedStakes.toNat ≤ vault.toNat
  stored : bet.owner = Key.game → ∃ b, bet.data = Bet.record.encode b
  stands : ∀ b, bet.bet? = some b → b.pool = x.pool ∧ b.Stands S x.vault x.bet
    ∧ b.slot ≤ L.slot

variable {x : Seats} {p q : Pool} {purse vault : UInt64} {bet : Account}

theorem Ledger.Balances.tallyIn_after (hb : L.Balances S x p vault q bet)
    {P : Key} (hP : P ≠ x.pool) (measure : Bet → Nat) :
    tallyIn P measure bet = 0 := by
  cases hbet : bet.bet? with
  | none => exact tallyIn_of_none hbet
  | some b =>
    obtain ⟨hpool, _⟩ := hb.stands b hbet
    rw [tallyIn_of_bet? hbet, if_neg fun heq => hP (heq.symm.trans hpool)]

namespace Sound

theorem goodPool_betStep (hS : Apart S) (hL : Sound S L)
    (h : L.Steps S x p q bet) (hb : L.Balances S x p vault q bet) :
    (L.betStep x purse vault q bet).GoodPool S x.pool q := by
  have hold := hL.pool x.pool p h.pool
  have hvault : q.vault = x.vault := h.vault.trans (h.vault_eq hS hL).2
  have hfloor : vault ≠ 0 := by
    have hbacked := hb.backed
    have hpos : 0 < Call.rentFloor.toNat := by decide
    exact Word.ne_zero_of_toNat_pos (by omega)
  have hget : (L.betStep x purse vault q bet).get x.vault
      = { L.get x.vault with lamports := vault } := by
    rw [h.get_vault hS]
    exact Account.kept_of_lamports_ne hfloor
  have hseat := (h.vault_eq hS hL).2
  exact {
    stands := {
      mem := by rw [h.house]; exact hold.stands.mem
      find := by rw [h.house, h.bump]; exact hold.stands.find
      vaultMem := by rw [h.house]; exact hold.stands.vaultMem
      vaultFind := by
        rw [h.house, h.vault, h.vaultBump]; exact hold.stands.vaultFind }
    vaultOwner := by
      rw [hvault, hget, ← hseat]
      exact hold.vaultOwner
    vaultData := by
      rw [hvault, hget, ← hseat]
      exact hold.vaultData
    openBets := by
      have htally := h.tally_betStep hS hL purse vault x.pool fun _ => 1
      have hcount := hb.openBets
      have hbefore := hold.openBets
      omega
    lockedStakes := by
      have htally :=
        h.tally_betStep hS hL purse vault x.pool fun b => b.amount.toNat
      have hcount := hb.lockedStakes
      have hbefore := hold.lockedStakes
      omega
    refunded := hb.refunded
    backed := by
      rw [hvault, hget]
      exact hb.backed }

theorem goodPool_betStep_of_ne (hS : Apart S) (hL : Sound S L)
    (h : L.Steps S x p q bet) (hb : L.Balances S x p vault q bet) {P : Key}
    {p' : Pool} (hP : P ≠ x.pool) (hp' : L.pool? P = some p') :
    (L.betStep x purse vault q bet).GoodPool S P p' := by
  have hold := hL.pool P p' hp'
  have htally : ∀ measure, (L.betStep x purse vault q bet).tally P measure
      = L.tally P measure := by
    intro measure
    have htally := h.tally_betStep hS hL purse vault P measure
    rw [h.tallyIn_before hS hL hP, hb.tallyIn_after hP] at htally
    exact htally
  have hget := h.get_vault_of_ne hS hL hP hp' purse vault
  refine hold.carry ?_ ?_ ?_ htally
  · rw [hget]
    exact UInt64.le_refl _
  · rw [hget]
  · rw [hget]

/-- A step that balances keeps the ledger sound. -/
theorem betStep (hS : Apart S) (hL : Sound S L) (h : L.Steps S x p q bet)
    (hb : L.Balances S x p vault q bet) :
    Sound S (L.betStep x purse vault q bet) where
  stored k hk := by
    by_cases hout : k = x.player ∨ k = x.vault
    · exact absurd hk (h.outside_not_game hS hL purse vault hout).2
    by_cases hpool : k = x.pool
    · exact .inl ⟨q, by rw [hpool, h.get_pool hS]⟩
    by_cases hbet : k = x.bet
    · rw [hbet, h.get_bet hS] at hk ⊢
      exact .inr (hb.stored hk)
    · rw [L.get_betStep_of_ne hout hpool hbet] at hk ⊢
      exact hL.stored k hk
  pool P p' hp' := by
    by_cases hP : P = x.pool
    · rw [hP, h.pool?_pool hS, Option.some.injEq] at hp'
      rw [hP, ← hp']
      exact hL.goodPool_betStep hS h hb
    · rw [h.pool?_of_ne hS hL hP] at hp'
      exact hL.goodPool_betStep_of_ne hS h hb hP hp'
  bet B b hB := by
    have hslot : (L.betStep x purse vault q bet).slot = L.slot :=
      L.slot_setAll _
    by_cases hbet : B = x.bet
    · rw [hbet, h.bet?_bet hS] at hB
      obtain ⟨hpool, hstands, hb⟩ := hb.stands b hB
      refine ⟨⟨q, ?_, ?_⟩, ?_⟩
      · rw [hpool]
        exact h.pool?_pool hS
      · rw [hbet, h.vault, (h.vault_eq hS hL).2]
        exact hstands
      · rw [hslot]
        exact hb
    · rw [h.bet?_of_ne hS hL hbet] at hB
      obtain ⟨⟨p', hp', hstands⟩, hb⟩ := hL.bet B b hB
      refine ⟨?_, by rw [hslot]; exact hb⟩
      by_cases hP : b.pool = x.pool
      · -- The pool of the step keeps its vault.
        rw [hP, h.pool, Option.some.injEq] at hp'
        refine ⟨q, ?_, ?_⟩
        · rw [hP]
          exact h.pool?_pool hS
        · rw [h.vault, hp']
          exact hstands
      · exact ⟨p', (h.pool?_of_ne hS hL hP).trans hp', hstands⟩

end Sound

end HouseDice
