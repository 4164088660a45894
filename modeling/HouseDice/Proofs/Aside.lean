import HouseDice.Proofs.Alternation
import HouseDice.Proofs.Movement
import HouseDice.Proofs.Solvency

/-!
# With one more bet

Two ledgers are compared here that differ by one open bet: in the second it is
there, in the first it was never placed. The vault holds its stake besides, the
bet's account holds its rent, its player lacks both, and the pool counts one
more open bet and its stake as locked and as wagered. All else is the same.

Whatever goes well with the bet goes well without it, and the two ledgers keep
their difference. What is spendable is the same in both, because the stake is
added to the vault and to the locked stakes, and neither difference is cut off
at zero; so every admission and every settlement is decided alike. The counters
without the bet are smaller, so they overflow less; the player without it is
richer. The one call that is not followed is one about the bet itself.
-/

namespace HouseDice

open Address

variable {S : Set Purpose} {L M L₁ M₁ : Ledger} {c : Call} {x y : Seats}
  {b b' : Bet} {p q p₁ q₁ : Pool} {P : Key}

/-! ## Pools -/

/-- The pool `q` is `p` with `n` more open bets, whose stakes come to `a`. -/
structure Pool.Plus (n a : ℕ) (p q : Pool) : Prop where
  openBets : q.openBets.toNat = p.openBets.toNat + n
  lockedStakes : q.lockedStakes.toNat = p.lockedStakes.toNat + a
  totalWagered : q.totalWagered.toNat = p.totalWagered.toNat + a
  rest : q = { p with
    openBets := q.openBets, lockedStakes := q.lockedStakes,
    totalWagered := q.totalWagered }

namespace Pool.Plus

variable {n a : ℕ} {lamports lamports' floor : UInt64}

theorem refl (p : Pool) : Plus 0 0 p p := ⟨rfl, rfl, rfl, rfl⟩

theorem house (h : Plus n a p q) : p.house = q.house :=
  (congrArg Pool.house h.rest).symm

theorem vault (h : Plus n a p q) : p.vault = q.vault :=
  (congrArg Pool.vault h.rest).symm

theorem totalPaidOut (h : Plus n a p q) : p.totalPaidOut = q.totalPaidOut :=
  (congrArg Pool.totalPaidOut h.rest).symm

theorem totalRefunded (h : Plus n a p q) : p.totalRefunded = q.totalRefunded :=
  (congrArg Pool.totalRefunded h.rest).symm

theorem eq_of_zero (h : Plus 0 0 p q) : p = q := by
  have hopen : q.openBets = p.openBets := UInt64.toNat_inj.1 h.openBets
  have hlocked : q.lockedStakes = p.lockedStakes :=
    UInt64.toNat_inj.1 h.lockedStakes
  have hwagered : q.totalWagered = p.totalWagered :=
    UInt64.toNat_inj.1 h.totalWagered
  rw [h.rest, hopen, hlocked, hwagered]

/-- Open stakes back nothing: with them in the vault and locked, as much can be
spent. -/
theorem spendable (h : Plus n a p q)
    (hbacked : floor.toNat + p.lockedStakes.toNat ≤ lamports.toNat)
    (hlamports : lamports'.toNat = lamports.toNat + a) :
    q.spendable lamports' floor = p.spendable lamports floor := by
  have hlocked := h.lockedStakes
  have hbacked' : floor.toNat + q.lockedStakes.toNat ≤ lamports'.toNat := by
    omega
  have hp := Pool.toNat_spendable hbacked
  have hq := Pool.toNat_spendable hbacked'
  exact UInt64.toNat_inj.1 (by omega)

theorem accept (h : Plus n a p q)
    (hbacked : floor.toNat + p.lockedStakes.toNat ≤ lamports.toNat)
    (hlamports : lamports'.toNat = lamports.toNat + a) {amount : UInt64}
    {roll : UInt8}
    (hq : q.after (Pool.accept lamports' floor amount roll) = .ok ((), q₁)) :
    ∃ p₁, p.after (Pool.accept lamports floor amount roll) = .ok ((), p₁)
      ∧ Plus n a p₁ q₁ := by
  obtain ⟨hvalid, hcovered, openBets, lockedStakes, totalWagered, hopen,
    hlocked, hwagered, rfl⟩ := Pool.after_accept_eq_ok_iff.1 hq
  rw [h.spendable hbacked hlamports] at hcovered
  rw [h.openBets] at hopen
  rw [h.lockedStakes] at hlocked
  rw [h.totalWagered] at hwagered
  have hopenFits : p.openBets.toNat + 1 < UInt64.size := by
    have hlt := openBets.toNat_lt_size
    omega
  have hlockedFits : p.lockedStakes.toNat + amount.toNat < UInt64.size := by
    have hlt := lockedStakes.toNat_lt_size
    omega
  have hwageredFits : p.totalWagered.toNat + amount.toNat < UInt64.size := by
    have hlt := totalWagered.toNat_lt_size
    omega
  obtain ⟨openBets', hopen'⟩ := Word.exists_toNat_eq hopenFits
  obtain ⟨lockedStakes', hlocked'⟩ := Word.exists_toNat_eq hlockedFits
  obtain ⟨totalWagered', hwagered'⟩ := Word.exists_toNat_eq hwageredFits
  refine ⟨_, Pool.after_accept_eq_ok_iff.2 ⟨hvalid, hcovered, openBets',
    lockedStakes', totalWagered', hopen', hlocked', hwagered', rfl⟩,
    ?_, ?_, ?_, ?_⟩
  · show openBets.toNat = openBets'.toNat + n
    omega
  · show lockedStakes.toNat = lockedStakes'.toNat + a
    omega
  · show totalWagered.toNat = totalWagered'.toNat + a
    omega
  · rw [h.rest]

theorem settle (h : Plus n a p q)
    (hbacked : floor.toNat + p.lockedStakes.toNat ≤ lamports.toNat)
    (hlamports : lamports'.toNat = lamports.toNat + a) {s : Signature}
    {t : Game.Settlement}
    (hreleased : ∃ openBets lockedStakes : UInt64,
      p.openBets.toNat = openBets.toNat + 1
      ∧ p.lockedStakes.toNat = lockedStakes.toNat + b.amount.toNat)
    (hq : q.after (Pool.settle lamports' floor b s) = .ok (t, q₁)) :
    ∃ p₁, p.after (Pool.settle lamports floor b s) = .ok (t, p₁)
      ∧ Plus n a p₁ q₁ := by
  obtain ⟨hsettle, hcovered, openBets, lockedStakes, totalPaidOut, hopen,
    hlocked, hpaid, rfl⟩ := Pool.after_settle_eq_ok_iff.1 hq
  obtain ⟨openBets', lockedStakes', hopen', hlocked'⟩ := hreleased
  rw [h.spendable hbacked hlamports] at hcovered
  rw [h.openBets] at hopen
  rw [h.lockedStakes] at hlocked
  rw [← h.totalPaidOut] at hpaid
  refine ⟨_, Pool.after_settle_eq_ok_iff.2 ⟨hsettle, hcovered, openBets',
    lockedStakes', totalPaidOut, hopen', hlocked', hpaid, rfl⟩, ?_, ?_,
    h.totalWagered, ?_⟩
  · show openBets.toNat = openBets'.toNat + n
    omega
  · show lockedStakes.toNat = lockedStakes'.toNat + a
    omega
  · rw [h.rest]

theorem refund (h : Plus n a p q) {slot owed : UInt64}
    (hreleased : ∃ openBets lockedStakes : UInt64,
      p.openBets.toNat = openBets.toNat + 1
      ∧ p.lockedStakes.toNat = lockedStakes.toNat + b.amount.toNat)
    (hq : q.after (Pool.refund b slot) = .ok (owed, q₁)) :
    ∃ p₁, p.after (Pool.refund b slot) = .ok (owed, p₁) ∧ Plus n a p₁ q₁ := by
  obtain ⟨htime, howed, openBets, lockedStakes, totalRefunded, hopen, hlocked,
    hrefunded, rfl⟩ := Pool.after_refund_eq_ok_iff.1 hq
  obtain ⟨openBets', lockedStakes', hopen', hlocked'⟩ := hreleased
  rw [h.openBets] at hopen
  rw [h.lockedStakes] at hlocked
  rw [← h.totalRefunded] at hrefunded
  refine ⟨_, Pool.after_refund_eq_ok_iff.2 ⟨htime, howed, openBets',
    lockedStakes', totalRefunded, hopen', hlocked', hrefunded, rfl⟩, ?_, ?_,
    h.totalWagered, ?_⟩
  · show openBets.toNat = openBets'.toNat + n
    omega
  · show lockedStakes.toNat = lockedStakes'.toNat + a
    omega
  · rw [h.rest]

end Pool.Plus

/-! ## Ledgers -/

/-- The rent that a bet's account holds. -/
def Bet.rent : ℕ := (Ledger.rentMinimum Bet.record.size).toNat

/-- The ledger `M` is `L` with the open bet `b` of the seats `y` besides. -/
structure Ledger.Aside (S : Set Purpose) (y : Seats) (b : Bet)
    (L M : Ledger) : Prop where
  left : Sound S L
  right : Sound S M
  total : L.total < UInt64.size
  stand : y.Stand S b.seed
  slot : M.slot = L.slot
  lamports : ∀ k, M.lamports k = L.lamports k
    + y.shift (-(b.amount.toNat + Bet.rent)) b.amount.toNat Bet.rent k
  content : ∀ k, k ≠ y.pool → k ≠ y.bet → M.content k = L.content k
  pool : ∃ p q, L.content y.pool = (Key.game, Pool.record.encode p)
    ∧ M.content y.pool = (Key.game, Pool.record.encode q)
    ∧ p.Plus 1 b.amount.toNat q
  free : L.content y.bet = Account.plain ∧ L.lamports y.bet = 0
  bet : M.content y.bet = (Key.game, Bet.record.encode b)

theorem Seats.shift_of_ne {player bank held : ℤ} {k : Key}
    (hplayer : k ≠ x.player) (hvault : k ≠ x.vault) (hbet : k ≠ x.bet) :
    x.shift player bank held k = 0 := by
  rw [shift, if_neg hplayer, if_neg hvault, if_neg hbet]

theorem Seats.shift_vault {player bank held : ℤ} (hne : x.vault ≠ x.player) :
    x.shift player bank held x.vault = bank := by
  rw [shift, if_neg hne, if_pos rfl]

theorem Seats.shift_bet {player bank held : ℤ} (hplayer : x.bet ≠ x.player)
    (hvault : x.bet ≠ x.vault) : x.shift player bank held x.bet = held := by
  rw [shift, if_neg hplayer, if_neg hvault, if_pos rfl]

/-- An account of the program reads as what its content says. -/
theorem Ledger.pool?_of_content
    (h : L.content P = (Key.game, Pool.record.encode p)) :
    L.pool? P = some p :=
  Account.stored?_of_data (congrArg Prod.fst h) (congrArg Prod.snd h)

theorem Ledger.bet?_of_content {B : Key}
    (h : L.content B = (Key.game, Bet.record.encode b)) :
    L.bet? B = some b :=
  Account.stored?_of_data (congrArg Prod.fst h) (congrArg Prod.snd h)

namespace Ledger.Aside

/-! ### What is the same -/

theorem lamports_of_ne (h : Aside S y b L M) {k : Key} (hplayer : k ≠ y.player)
    (hvault : k ≠ y.vault) (hbet : k ≠ y.bet) :
    M.lamports k = L.lamports k := by
  rw [h.lamports, Seats.shift_of_ne hplayer hvault hbet, Int.add_zero]

/-- Nobody but the vault and the bet's account is poorer without the bet. -/
theorem lamports_le (h : Aside S y b L M) {k : Key} (hvault : k ≠ y.vault)
    (hbet : k ≠ y.bet) :
    M.lamports k ≤ L.lamports k := by
  rw [h.lamports, Seats.shift, if_neg hvault, if_neg hbet]
  split
  next => omega
  next => omega

theorem lamports_vault (h : Aside S y b L M) :
    M.lamports y.vault = L.lamports y.vault + b.amount.toNat := by
  rw [h.lamports, Seats.shift_vault h.stand.player_ne_vault.symm]

theorem lamports_bet (h : Aside S y b L M) (hS : Apart S) :
    M.lamports y.bet = Bet.rent := by
  rw [h.lamports,
    Seats.shift_bet h.stand.player_ne_bet.symm (h.stand.vault_ne_bet hS).symm,
    h.free.2, Int.zero_add]

theorem lamports_other_bet (h : Aside S y b L M) (hS : Apart S) {seed : Seed}
    (hx : x.Stand S seed) (hne : x.bet ≠ y.bet) :
    M.lamports x.bet = L.lamports x.bet :=
  h.lamports_of_ne (hx.bet.ne_of_not_derived h.stand.player).symm
    (hS.ne hx.bet h.stand.vault (by simp)) hne

theorem total_eq (h : Aside S y b L M) (hS : Apart S) : M.total = L.total := by
  have hkeys : [y.player, y.vault, y.bet].Nodup := by
    simp [h.stand.player_ne_vault, h.stand.player_ne_bet,
      h.stand.vault_ne_bet hS]
  have hout :=
    sum_of_outside (f := fun a => a.lamports.toNat) rfl (L := L) (M := M) hkeys
      fun k hk => by
        simp only [List.mem_cons, List.not_mem_nil, or_false, not_or] at hk
        have hsame := h.lamports_of_ne hk.1 hk.2.1 hk.2.2
        rw [Ledger.lamports, Ledger.lamports] at hsame
        omega
  have hplayer := h.lamports y.player
  rw [Seats.shift, if_pos rfl] at hplayer
  have hvault := h.lamports_vault
  have hbet := h.lamports_bet hS
  have hfree := h.free.2
  simp only [Ledger.lamports] at hplayer hvault hbet hfree
  simp only [List.map_cons, List.map_nil, List.sum_cons, List.sum_nil] at hout
  rw [Ledger.total, Ledger.total]
  omega

/-- Without the bet every pool is there, and its own pool has one open bet
less. -/
theorem pool? (h : Aside S y b L M) (hq : M.pool? P = some q) :
    ∃ p, L.pool? P = some p
      ∧ p.Plus (if P = y.pool then 1 else 0)
        (if P = y.pool then b.amount.toNat else 0) q := by
  by_cases hP : P = y.pool
  · obtain ⟨p, q', hp, hq', hplus⟩ := h.pool
    have heq := (pool?_of_content hq').symm.trans (hP ▸ hq)
    rw [Option.some.injEq] at heq
    subst heq
    rw [if_pos hP, if_pos hP, hP]
    exact ⟨p, pool?_of_content hp, hplus⟩
  · have hne : P ≠ y.bet := by
      rintro rfl
      exact absurd (Account.bet?_of_pool? hq)
        (by rw [← Ledger.bet?, bet?_of_content h.bet]; simp)
    rw [if_neg hP, if_neg hP]
    exact ⟨q,
      (Account.stored?_congr (h.content P hP hne) Pool.record).symm.trans hq,
      .refl q⟩

/-- The pool of the bet, and no other, has the bet's vault. -/
theorem vault_eq_iff (h : Aside S y b L M) (hS : Apart S)
    (hq : M.pool? P = some q) :
    q.vault = y.vault ↔ P = y.pool := by
  have hstands := (h.right.pool P q hq).stands
  constructor
  · intro heq
    have hof := hstands.vault
    rw [heq] at hof
    have hpool := hstands.pool
    rw [hS.vault_inj hof h.stand.vault] at hpool
    exact hpool.unique h.stand.pool
  · rintro rfl
    have hvault := hstands.vault
    rw [hS.pool_inj hstands.pool h.stand.pool] at hvault
    exact hvault.unique h.stand.vault

/-- A vault holds the stake besides, if it is the vault of the bet's pool. -/
theorem vault (h : Aside S y b L M) (hS : Apart S) (hq : M.pool? P = some q) :
    (M.get q.vault).lamports.toNat = (L.get q.vault).lamports.toNat
      + if P = y.pool then b.amount.toNat else 0 := by
  by_cases hP : P = y.pool
  · have hmore := h.lamports_vault
    rw [Ledger.lamports, Ledger.lamports] at hmore
    rw [if_pos hP, (h.vault_eq_iff hS hq).2 hP]
    omega
  · have hstands := (h.right.pool P q hq).stands
    have hsame :=
      h.lamports_of_ne (hstands.vault.ne_of_not_derived h.stand.player).symm
        (fun heq => hP ((h.vault_eq_iff hS hq).1 heq))
        (hS.ne hstands.vault h.stand.bet (by simp))
    rw [Ledger.lamports, Ledger.lamports] at hsame
    rw [if_neg hP]
    omega

/-- Other bets are there without this one. -/
theorem bet? (h : Aside S y b L M) {B : Key} (hB : M.bet? B = some b')
    (hne : B ≠ y.bet) :
    L.bet? B = some b' := by
  have hpool : B ≠ y.pool := by
    rintro rfl
    obtain ⟨_, q, _, hq, _⟩ := h.pool
    exact absurd (Account.pool?_of_bet? hB)
      (by rw [← Ledger.pool?, pool?_of_content hq]; simp)
  exact (Account.stored?_congr (h.content B hpool hne) Bet.record).symm.trans hB

/-! ### What is kept -/

/-- Two steps that add the same lamports and write the same content keep the
difference, if they leave the bet's account alone. -/
theorem of_shift (h : Aside S y b L M) (hL₁ : Sound S L₁) (hM₁ : Sound S M₁)
    (htotal : L₁.total < UInt64.size) (hslot : M₁.slot = L₁.slot) {f : Key → ℤ}
    (hleft : ∀ k, L₁.lamports k = L.lamports k + f k)
    (hright : ∀ k, M₁.lamports k = M.lamports k + f k) (hbetKept : f y.bet = 0)
    (hcontent : ∀ k, k ≠ y.pool → k ≠ y.bet → M₁.content k = L₁.content k)
    (hpool : ∃ p q, L₁.content y.pool = (Key.game, Pool.record.encode p)
      ∧ M₁.content y.pool = (Key.game, Pool.record.encode q)
      ∧ p.Plus 1 b.amount.toNat q)
    (hfree : L₁.content y.bet = L.content y.bet)
    (hbet : M₁.content y.bet = M.content y.bet) :
    Aside S y b L₁ M₁ where
  left := hL₁
  right := hM₁
  total := htotal
  stand := h.stand
  slot := hslot
  lamports k := by
    rw [hleft, hright, h.lamports]
    omega
  content := hcontent
  pool := hpool
  free := ⟨hfree.trans h.free.1,
    by rw [hleft, hbetKept, h.free.2, Int.add_zero]⟩
  bet := hbet.trans h.bet

/-- So do two steps of the same other bet. -/
theorem of_betMoves (h : Aside S y b L M) (hS : Apart S) (hL₁ : Sound S L₁)
    (hM₁ : Sound S M₁) (htotal : L₁.total = L.total) {seed : Seed}
    (hx : x.Stand S seed) (hne : x.bet ≠ y.bet) {player bank held : ℤ}
    {written : Key × Bytes}
    (hleft : L.BetMoves L₁ x player bank held p₁ written)
    (hright : M.BetMoves M₁ x player bank held q₁ written)
    (hplus : p₁.Plus (if x.pool = y.pool then 1 else 0)
      (if x.pool = y.pool then b.amount.toNat else 0) q₁) :
    Aside S y b L₁ M₁ := by
  have hpoolBet : y.pool ≠ x.bet := hS.ne h.stand.pool hx.bet (by simp)
  have hbetPool : y.bet ≠ x.pool := hS.ne h.stand.bet hx.pool (by simp)
  refine h.of_shift hL₁ hM₁ (htotal ▸ h.total)
    (by rw [hright.slot, h.slot, hleft.slot])
    hleft.lamports hright.lamports ?_ (fun k hkp hkb => ?_) ?_
    (hleft.content _ hbetPool hne.symm) (hright.content _ hbetPool hne.symm)
  · exact Seats.shift_of_ne (h.stand.bet.ne_of_not_derived hx.player).symm
      (hS.ne h.stand.bet hx.vault (by simp)) hne.symm
  · by_cases hpool : k = x.pool
    · subst hpool
      rw [if_neg hkp, if_neg hkp] at hplus
      rw [hright.pool, hleft.pool, hplus.eq_of_zero]
    by_cases hbet : k = x.bet
    · rw [hbet, hright.bet, hleft.bet]
    · rw [hright.content k hpool hbet, hleft.content k hpool hbet,
        h.content k hkp hkb]
  · by_cases hpool : x.pool = y.pool
    · rw [if_pos hpool, if_pos hpool] at hplus
      rw [← hpool]
      exact ⟨p₁, q₁, hleft.pool, hright.pool, hplus⟩
    · rw [hleft.content _ (Ne.symm hpool) hpoolBet,
        hright.content _ (Ne.symm hpool) hpoolBet]
      exact h.pool

/-! ### Placing and closing other bets -/

theorem stakes (h : Aside S y b L M) (hS : Apart S) (hlawful : c.Lawful S)
    {seed : Seed} {amount : UInt64} {roll bump : UInt8}
    (hdecode : Request.decode c.data = .ok (.placeBet seed amount roll))
    (step : M.Stakes S c x seed amount roll bump q q₁ M₁)
    (hne : x.bet ≠ y.bet) :
    ∃ L₁, (L.run c).result
        = .ok (L₁, .betPlaced x.bet x.player x.pool seed amount roll M.slot)
      ∧ Aside S y b L₁ M₁ := by
  obtain ⟨p, hp, hplus⟩ := h.pool? step.pool
  have hhouse := hplus.house.trans step.house
  have hvault := hplus.vault.trans step.vault
  have hbank := h.vault hS step.pool
  have hbacked := (h.left.pool _ _ hp).backed
  rw [step.vault] at hbank
  rw [hvault] at hbacked
  obtain ⟨p₁, hp₁, hplus₁⟩ := hplus.accept hbacked hbank step.counted
  have hplayerBet : x.player ≠ y.bet :=
    h.stand.bet.ne_of_not_derived step.stand.player
  have hheld := h.lamports_other_bet hS step.stand hne
  have hlacks : M.lacks x.bet Bet.record.size
      = L.lacks x.bet Bet.record.size := by
    rw [lacks, lacks, hheld]
  have hrich :=
    h.lamports_le (h.stand.vault.ne_of_not_derived step.stand.player) hplayerBet
  rw [Ledger.lamports, Ledger.lamports] at hheld hrich
  -- The player has at least as much, and the others need no more.
  obtain ⟨purse, vault, rent, hsum, hrent, hpurse, _⟩ := step.moved
  have hfits : (L.get x.vault).lamports.toNat + amount.toNat < UInt64.size := by
    have hlt := vault.toNat_lt_size
    omega
  have henough :
      amount.toNat
        + max (L.get x.bet).lamports.toNat
          (Ledger.rentMinimum Bet.record.size).toNat
      ≤ (L.get x.player).lamports.toNat + (L.get x.bet).lamports.toNat := by
    omega
  have hbetPool : x.bet ≠ y.pool := hS.ne step.stand.bet h.stand.pool (by simp)
  have hfree := (h.content x.bet hbetPool hne).symm.trans
    (Account.content_eq_plain_iff.2 step.free)
  have hplayerPool : x.player ≠ y.pool :=
    h.stand.pool.ne_of_not_derived step.stand.player
  have hpayer := (h.content x.player hplayerPool hplayerBet).symm.trans
    (Account.content_eq_plain_iff.2 step.payer)
  obtain ⟨L₁, hstep, hrun⟩ :=
    Ledger.stakes_of_accepted hS h.left hlawful hdecode step.seated
      step.stand hp hhouse hvault step.find
      (Account.content_eq_plain_iff.1 hfree)
      (Account.content_eq_plain_iff.1 hpayer) hp₁ hfits henough
  have hmoves := step.moves hS
  rw [hlacks, h.slot] at hmoves
  refine ⟨L₁, by rw [hrun, h.slot], ?_⟩
  exact h.of_betMoves hS (hstep.sound hS h.left) (step.sound hS h.right)
    (hstep.total hS) step.stand hne (hstep.moves hS) hmoves hplus₁

/-- What an open bet belongs to is the same without the bet that is set
aside. -/
theorem holds (h : Aside S y b L M) (hM : M.Holds x b' q) (hne : x.bet ≠ y.bet)
    (hp : L.pool? x.pool = some p) {n a : ℕ} (hplus : p.Plus n a q) :
    L.Holds x b' p where
  bet := h.bet? hM.bet hne
  pool := hp
  player := hM.player
  betPool := hM.betPool
  house := hplus.house.trans hM.house
  vault := hplus.vault.trans hM.vault

/-- Closing another bet keeps the difference, whatever is paid. -/
theorem closes (h : Aside S y b L M) (hS : Apart S) (hleft : L.Holds x b' p)
    (hright : M.Holds x b' q) (hne : x.bet ≠ y.bet)
    (hp₁ : Pool.Releases b'.amount p p₁) (hq₁ : Pool.Releases b'.amount q q₁)
    {paid : UInt64}
    (hpaid : Call.rentFloor.toNat + p.lockedStakes.toNat + paid.toNat
      ≤ (L.get x.vault).lamports.toNat + b'.amount.toNat)
    (hpaid' : Call.rentFloor.toNat + q.lockedStakes.toNat + paid.toNat
      ≤ (M.get x.vault).lamports.toNat + b'.amount.toNat)
    (hL₁ : L.Closes x p₁ paid L₁) (hM₁ : M.Closes x q₁ paid M₁)
    (hplus : p₁.Plus (if x.pool = y.pool then 1 else 0)
      (if x.pool = y.pool then b.amount.toNat else 0) q₁) :
    Aside S y b L₁ M₁ := by
  have hx := hright.stand h.right
  have hmoves := hM₁.moves hS h.right hright hq₁ hpaid'
  rw [h.lamports_other_bet hS hx hne] at hmoves
  exact h.of_betMoves hS (h.left.closes hS hleft hp₁ hpaid hL₁)
    (h.right.closes hS hright hq₁ hpaid' hM₁) (hL₁.total hS h.left hleft hp₁)
    hx hne (hL₁.moves hS h.left hleft hp₁ hpaid) hmoves hplus

theorem resolves (h : Aside S y b L M) (hS : Apart S) {s : Signature}
    {t : Game.Settlement}
    (hdecode : Request.decode c.data = .ok (.resolveBet s))
    (step : M.Resolves c x b' q q₁ s t M₁) (hne : x.bet ≠ y.bet) :
    ∃ L₁, (L.run c).result
        = .ok (L₁, .betResolved x.bet x.player b'.roll t.outcome t.won t.payout)
      ∧ Aside S y b L₁ M₁ := by
  obtain ⟨p, hp, hplus⟩ := h.pool? step.holds.pool
  have hholds := h.holds step.holds hne hp hplus
  have hbank := h.vault hS step.holds.pool
  have hbacked := (hholds.goodPool h.left).backed
  have hbacked' := (step.holds.goodPool h.right).backed
  rw [step.holds.vault] at hbank hbacked'
  rw [hholds.vault] at hbacked
  obtain ⟨p₁, hp₁, hplus₁⟩ :=
    hplus.settle hbacked hbank (hholds.released h.left) step.counted
  obtain ⟨L₁, hstep, hrun⟩ :=
    hholds.resolves hS h.left h.total step.seated hdecode step.vouched hp₁
  exact ⟨L₁, hrun,
    h.closes hS hholds step.holds hne (Pool.releases_of_settle hp₁)
    (Pool.releases_of_settle step.counted) (Pool.covered_of_settle hbacked hp₁)
    (Pool.covered_of_settle hbacked' step.counted) hstep.closes step.closes
    hplus₁⟩

theorem refunds (h : Aside S y b L M) (hS : Apart S)
    (hdecode : Request.decode c.data = .ok .refundBet)
    (step : M.Refunds c x b' q q₁ M₁) (hne : x.bet ≠ y.bet) :
    ∃ L₁, (L.run c).result
      = .ok (L₁, .betRefunded x.bet x.player b'.amount M.slot)
      ∧ Aside S y b L₁ M₁ := by
  obtain ⟨p, hp, hplus⟩ := h.pool? step.holds.pool
  have hholds := h.holds step.holds hne hp hplus
  have hbacked := (hholds.goodPool h.left).backed
  have hbacked' := (step.holds.goodPool h.right).backed
  rw [step.holds.vault] at hbacked'
  rw [hholds.vault] at hbacked
  obtain ⟨p₁, hp₁, hplus₁⟩ := hplus.refund (hholds.released h.left) step.counted
  rw [h.slot] at hp₁
  obtain ⟨L₁, hstep, hrun⟩ :=
    hholds.refunds hS h.left h.total step.seated hdecode hp₁
  exact ⟨L₁, by rw [hrun, h.slot],
    h.closes hS hholds step.holds hne (Pool.releases_of_refund hp₁)
      (Pool.releases_of_refund step.counted) (by omega) (by omega)
      hstep.closes step.closes hplus₁⟩

/-! ### Opening pools -/

/-- A new pool is not the pool of the bet, and its vault is not that pool's
vault. -/
theorem founds_ne (h : Aside S y b L M) (hS : Apart S) {pool : Key}
    {amount : UInt64} (step : M.Founds S c pool p amount M₁) :
    pool ≠ y.pool ∧ p.vault ≠ y.vault := by
  obtain ⟨_, q, _, hq, _⟩ := h.pool
  have hpool := pool?_of_content hq
  constructor
  · rintro rfl
    have hfree : M.pool? y.pool = none := step.pool_free Pool.record
    rw [hpool] at hfree
    cases hfree
  · have hout := step.vault_not_mem hS h.right hpool
    rw [(h.vault_eq_iff hS hpool).2 rfl] at hout
    simp only [List.mem_cons, not_or] at hout
    exact Ne.symm hout.2.2.1

theorem founds (h : Aside S y b L M) (hS : Apart S) (hlawful : c.Lawful S)
    {pool : Key} {amount : UInt64}
    (hdecode : Request.decode c.data = .ok (.initializePool amount))
    (step : M.Founds S c pool p amount M₁) :
    ∃ L₁, (L.run c).result
      = .ok (L₁, .poolInitialized pool p.house p.vault amount)
      ∧ Aside S y b L₁ M₁ := by
  obtain ⟨hpoolPool, hvaultVault⟩ := h.founds_ne hS step
  have hpoolBet : pool ≠ y.bet := hS.ne step.stands.pool h.stand.bet (by simp)
  have hvaultBet : p.vault ≠ y.bet :=
    hS.ne step.stands.vault h.stand.bet (by simp)
  have hhouseBet : p.house ≠ y.bet := h.stand.bet.ne_of_not_derived step.outside
  have hhousePool : p.house ≠ y.pool :=
    h.stand.pool.ne_of_not_derived step.outside
  have hrent :=
    h.lamports_of_ne (step.stands.pool.ne_of_not_derived h.stand.player).symm
      (hS.ne step.stands.pool h.stand.vault (by simp)) hpoolBet
  have hbank :=
    h.lamports_of_ne (step.stands.vault.ne_of_not_derived h.stand.player).symm
      hvaultVault hvaultBet
  have hrich :=
    h.lamports_le (h.stand.vault.ne_of_not_derived step.outside) hhouseBet
  have hright := step.lamports hS
  rw [lacks, lacks, hrent, hbank] at hright
  simp only [Ledger.lamports] at hrent hbank hrich
  -- The house has at least as much, and the two accounts cost the same.
  obtain ⟨purse, rent, funds, hrentEq, hfunds, hpurse, _⟩ := step.moved
  have hfits :
      max (L.get p.vault).lamports.toNat Call.rentFloor.toNat + amount.toNat
        < UInt64.size := by
    have hlt := funds.toNat_lt_size
    omega
  have henough :
      max (L.get pool).lamports.toNat
          (Ledger.rentMinimum Pool.record.size).toNat
        + max (L.get p.vault).lamports.toNat Call.rentFloor.toNat + amount.toNat
      ≤ (L.get p.house).lamports.toNat + (L.get pool).lamports.toNat
        + (L.get p.vault).lamports.toNat := by omega
  have hpayer := (h.content p.house hhousePool hhouseBet).symm.trans
    (Account.content_eq_plain_iff.2 step.payer)
  have hpoolFree := (h.content pool hpoolPool hpoolBet).symm.trans
    (Account.content_eq_plain_iff.2 step.poolFree)
  have hvaultFree :=
    (h.content p.vault (hS.ne step.stands.vault h.stand.pool (by simp))
      hvaultBet).symm.trans (Account.content_eq_plain_iff.2 step.vaultFree)
  obtain ⟨L₁, hstep, hrun⟩ :=
    Ledger.founds_of_free hS hlawful hdecode step.program step.named
      step.signed step.writes step.stands
      (Account.content_eq_plain_iff.1 hpayer)
      (Account.content_eq_plain_iff.1 hpoolFree)
      (Account.content_eq_plain_iff.1 hvaultFree)
      (h.slot ▸ step.created) hfits henough
  have hslot : M₁.slot = L₁.slot := by
    rw [(step.gets hS).1, (hstep.gets hS).1, h.slot]
  refine ⟨L₁, hrun, h.of_shift (hstep.sound hS h.left) (step.sound hS h.right)
    (hstep.total hS ▸ h.total) hslot (hstep.lamports hS) hright ?_
    (fun k hkp hkb => ?_) ?_
    (hstep.content hS hpoolBet.symm) (step.content hS hpoolBet.symm)⟩
  · rw [foundShift, if_neg hhouseBet.symm, if_neg hpoolBet.symm,
      if_neg hvaultBet.symm]
  · by_cases hk : k = pool
    · rw [hk, step.content_pool hS, hstep.content_pool hS]
    · rw [step.content hS hk, hstep.content hS hk, h.content k hkp hkb]
  · rw [step.content hS hpoolPool.symm, hstep.content hS hpoolPool.symm]
    exact h.pool

end Ledger.Aside

end HouseDice
