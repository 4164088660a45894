import HouseDice.Proofs.Movement
import HouseDice.Proofs.Outflow
import Mathlib.Algebra.Ring.Int.Defs

/-!
# Where a vault's lamports come from

A vault is filled by its house, by stakes and by whoever sends it lamports, and
emptied by wins and refunds. The pool counts stakes, wins and refunds, so what
the vault would hold without them, its own funds, is known at all times. It
starts with what the house brought and grows by gifts and by nothing else.

The counters also know the stakes that have been won or lost: they were wagered,
and they are neither refunded nor locked. Their sum grows by the stake of each
bet that is settled and by nothing else.

Both are one invariant of the same shape, something read off the ledger that
each step adds to. So the proof is one lemma for each kind of step and an
induction that adds up the run.
-/

namespace HouseDice

open Address

variable {S : Set Purpose} {L M N : Ledger} {c : Call} {x : Seats}
  {p q r : Pool} {P : Key}

/-! ## What is added -/

/-- What the vault of a pool would hold if no bet had ever been placed. -/
def Ledger.ownFunds (L : Ledger) (p : Pool) : ℤ :=
  L.lamports p.vault + p.totalPaidOut.toNat + p.totalRefunded.toNat
    - p.totalWagered.toNat

/-- The stakes that have been won or lost. -/
def Pool.resolvedStakes (p : Pool) : ℤ :=
  p.totalWagered.toNat - p.totalRefunded.toNat - p.lockedStakes.toNat

/-- What others send to the account under `V`. -/
def Ledger.gifts (V : Key) (L : Ledger) : Action → List ℤ
  | .outside accounts => [(accounts.get V).lamports.toNat - L.lamports V]
  | .call _ | .clock _ => []

/-- The bet against the pool under `P` that an event reports as settled. -/
def Ledger.settledBy (P : Key) (L : Ledger) : Event → List Bet
  | .betResolved B .. => betsIn P (L.get B)
  | .poolInitialized .. | .betPlaced .. | .betRefunded .. => []

/-- The bets against the pool under `P` that are settled. -/
def Ledger.settledBets (P : Key) (L : Ledger) : Action → List Bet
  | .call c =>
    match (L.run c).result with
    | .ok (_, event) => L.settledBy P event
    | .error _ => []
  | .clock _ | .outside _ => []

/-- What bets come to by their stakes. -/
def Bet.stakes (bets : List Bet) : ℕ := (bets.map fun b => b.amount.toNat).sum

theorem Bet.stakes_append (bets more : List Bet) :
    stakes (bets ++ more) = stakes bets + stakes more := by
  rw [stakes, List.map_append, List.sum_append, stakes, stakes]

/-- The pool `p` of `L` has become `q` in `M`, while this much was given to its
vault and bets with these stakes were settled. -/
structure Ledger.Follows (L M : Ledger) (P : Key) (p q : Pool) (given : ℤ)
    (settled : ℕ) : Prop where
  pool : M.pool? P = some q
  house : q.house = p.house
  vault : q.vault = p.vault
  initialFunding : q.initialFunding = p.initialFunding
  ownFunds : M.ownFunds q = L.ownFunds p + given
  resolvedStakes : q.resolvedStakes = p.resolvedStakes + settled

namespace Ledger.Follows

theorem trans {given more : ℤ} {settled others : ℕ}
    (h : L.Follows M P p q given settled) (h' : M.Follows N P q r more others) :
    L.Follows N P p r (given + more) (settled + others) where
  pool := h'.pool
  house := h'.house.trans h.house
  vault := h'.vault.trans h.vault
  initialFunding := h'.initialFunding.trans h.initialFunding
  ownFunds := by
    rw [h'.ownFunds, h.ownFunds]
    omega
  resolvedStakes := by
    rw [h'.resolvedStakes, h.resolvedStakes]
    omega

/-- A pool that is kept follows itself, and its vault has been given the
difference. -/
theorem of_same {given : ℤ} (hp : M.pool? P = some p)
    (hgiven : M.lamports p.vault = L.lamports p.vault + given) :
    L.Follows M P p p given 0 where
  pool := hp
  house := rfl
  vault := rfl
  initialFunding := rfl
  ownFunds := by
    rw [Ledger.ownFunds, Ledger.ownFunds, hgiven]
    omega
  resolvedStakes := (Int.add_zero _).symm

end Ledger.Follows

/-! ## One step -/

/-- A step of one bet adds nothing to the own funds of any pool, if what it adds
to its own vault is what its counters say. -/
theorem Ledger.Steps.follows {bet : Account} (h : L.Steps S x p q bet)
    (hS : Apart S) (hL : Sound S L) (purse vault : UInt64) (settled : ℕ)
    {p₀ : Pool} (hp₀ : L.pool? P = some p₀)
    (hinitial : q.initialFunding = p.initialFunding)
    (hfunds : vault.toNat + q.totalPaidOut.toNat + q.totalRefunded.toNat
      + p.totalWagered.toNat
      = (L.get x.vault).lamports.toNat + p.totalPaidOut.toNat
        + p.totalRefunded.toNat
        + q.totalWagered.toNat)
    (hstakes : q.resolvedStakes = p.resolvedStakes + settled) :
    ∃ q₀, L.Follows (L.betStep x purse vault q bet) P p₀ q₀ 0
      (if x.pool = P then settled else 0) := by
  by_cases hP : x.pool = P
  · subst hP
    have hsame := h.pool.symm.trans hp₀
    rw [Option.some.injEq] at hsame
    subst hsame
    rw [if_pos rfl]
    refine ⟨q, h.pool?_pool hS, h.house, h.vault, hinitial, ?_, hstakes⟩
    have hvault := (h.vault_eq hS hL).2
    have hheld : (L.betStep x purse vault q bet).lamports x.vault
        = vault.toNat := by
      rw [Ledger.lamports, h.get_vault hS, Account.lamports_kept]
    rw [Ledger.ownFunds, Ledger.ownFunds, h.vault, hvault, hheld,
      Ledger.lamports]
    omega
  · have hne : P ≠ x.pool := Ne.symm hP
    rw [if_neg hP]
    refine ⟨p₀, .of_same ((h.pool?_of_ne hS hL hne).trans hp₀) ?_⟩
    rw [Ledger.lamports, h.get_vault_of_ne hS hL hne hp₀, Int.add_zero]
    rfl

theorem Ledger.Founds.follows {pool : Key} {amount : UInt64}
    (h : L.Founds S c pool p amount M) (hS : Apart S) (hL : Sound S L)
    {p₀ : Pool} (hp₀ : L.pool? P = some p₀) :
    L.Follows M P p₀ p₀ 0 0 := by
  have hne : P ≠ pool := by
    rintro rfl
    have hfree : L.pool? P = none := h.pool_free Pool.record
    rw [hp₀] at hfree
    cases hfree
  obtain ⟨_, _, _, _, hother⟩ := h.gets hS
  refine .of_same ((h.stored? hS hL Pool.record hne).trans hp₀) ?_
  rw [Ledger.lamports, hother _ (h.vault_not_mem hS hL hp₀), Int.add_zero]
  rfl

theorem Ledger.settledBy_of_holds {b : Bet} (h : L.Holds x b p) (P : Key) :
    Bet.stakes (betsIn P (L.get x.bet))
      = if x.pool = P then b.amount.toNat else 0 := by
  rw [← h.betPool]
  exact tallyIn_of_bet? h.bet

theorem Ledger.Change.follows (hS : Apart S) (hL : Sound S L) {event : Event}
    (h : L.Change S c M event) {p₀ : Pool} (hp₀ : L.pool? P = some p₀) :
    ∃ q₀, L.Follows M P p₀ q₀ 0 (Bet.stakes (L.settledBy P event)) := by
  cases h with
  | founds _ step => exact ⟨p₀, step.follows hS hL hp₀⟩
  | stakes _ step =>
    obtain ⟨purse, vault, rent, hvault, hrent, _, rfl⟩ := step.moved
    have hsteps := step.steps (hrent ▸ Nat.le_max_right _ _)
    obtain ⟨_, _, openBets, lockedStakes, totalWagered, _, hlocked, hwagered,
      rfl⟩ := Pool.after_accept_eq_ok_iff.1 step.counted
    have hfollows := hsteps.follows hS hL purse vault 0 hp₀ rfl
      (by simp only; omega) (by simp only [Pool.resolvedStakes]; omega)
    rwa [ite_self] at hfollows
  | resolves _ step =>
    have hsteps := step.holds.steps hL (Pool.releases_of_settle step.counted)
    obtain ⟨purse, vault, hvault, _, rfl⟩ := step.closes
    obtain ⟨_, _, openBets, lockedStakes, totalPaidOut, _, hlocked, hpaid,
      rfl⟩ := Pool.after_settle_eq_ok_iff.1 step.counted
    rw [Ledger.settledBy, Ledger.settledBy_of_holds step.holds]
    exact hsteps.follows hS hL purse vault _ hp₀ rfl (by simp only; omega)
      (by simp only [Pool.resolvedStakes]; omega)
  | refunds _ step =>
    have hsteps := step.holds.steps hL (Pool.releases_of_refund step.counted)
    obtain ⟨purse, vault, hvault, _, rfl⟩ := step.closes
    obtain ⟨_, _, openBets, lockedStakes, totalRefunded, _, hlocked, hrefunded,
      rfl⟩ := Pool.after_refund_eq_ok_iff.1 step.counted
    have hfollows := hsteps.follows hS hL purse vault 0 hp₀ rfl
      (by simp only; omega) (by simp only [Pool.resolvedStakes]; omega)
    rwa [ite_self] at hfollows

theorem Sound.follows_act (hS : Apart S) (hL : Sound S L) {a : Action}
    (ha : L.Allows S a) (hp : L.pool? P = some p) :
    ∃ q, L.Follows (L.act a) P p q (L.gifts p.vault a).sum
      (Bet.stakes (L.settledBets P a)) := by
  cases a with
  | call c =>
    rcases Ledger.result_cases hS hL ha with ⟨f, hrun, hsame⟩
      | ⟨event, hrun, hchange⟩
    · have hnone : L.settledBets P (.call c) = [] := by
        simp only [Ledger.settledBets, hrun]
      rw [hnone, Ledger.act_call, hsame]
      exact ⟨p, .of_same hp (by simp [Ledger.gifts])⟩
    · have hsettled : L.settledBets P (.call c) = L.settledBy P event := by
        simp only [Ledger.settledBets, hrun]
      rw [hsettled]
      exact hchange.follows hS hL hp
  | clock slot => exact ⟨p, .of_same hp (by simp [Ledger.gifts]; rfl)⟩
  | outside accounts =>
    refine ⟨p, .of_same ((Store.Outside.stored? ha Pool.record P).trans hp) ?_⟩
    rw [Ledger.gifts, List.sum_singleton]
    show ((accounts.get p.vault).lamports.toNat : ℤ) = _
    omega

/-! ## The whole run -/

/-- A pool that is there at the start of a run is there at its end, and what the
run has given and settled can be read off it. -/
theorem Sound.follows_play (hS : Apart S) (hL : Sound S L) {run : List Action}
    (hrun : L.AllowsAll S run) (hp : L.pool? P = some p) :
    ∃ q, L.Follows (L.play run) P p q (L.collect (Ledger.gifts p.vault) run).sum
      (Bet.stakes (L.collect (Ledger.settledBets P) run)) := by
  induction run generalizing L p with
  | nil => exact ⟨p, .of_same hp (by simp [Ledger.collect, Ledger.play_nil])⟩
  | cons a rest ih =>
    obtain ⟨q, hstep⟩ := hL.follows_act hS hrun.1 hp
    obtain ⟨r, hrest⟩ := ih (hL.act hS hrun.1) hrun.2 hstep.pool
    rw [hstep.vault] at hrest
    rw [Ledger.collect, Ledger.collect, List.sum_append, Bet.stakes_append]
    exact ⟨r, hstep.trans hrest⟩

/-! ## Before the pool was opened -/

/-- The call opens the pool under `P`. -/
def Ledger.OpensPool (L : Ledger) (c : Call) (P : Key) : Prop :=
  (∃ amount, Request.decode c.data = .ok (.initializePool amount))
    ∧ c.key? 0 = some P
    ∧ ∃ r, (L.run c).result = .ok r

theorem Sound.founds_of_opensPool (hS : Apart S) (hL : Sound S L)
    (hc : c.Lawful S) (h : L.OpensPool c P) :
    ∃ p amount, L.Founds S c P p amount (L.after c) := by
  obtain ⟨⟨amount, hdecode⟩, hkey, ⟨M, event⟩, hok⟩ := h
  have hafter : L.after c = M := by rw [Ledger.after, hok]
  rw [hafter]
  obtain ⟨pool, p, hstep, _⟩ :=
    (Ledger.change_of_run hS hL hc hok).founds_of_decoded hdecode
  have hpool : pool = P := Option.some.inj (hstep.named.1.symm.trans hkey)
  exact ⟨p, amount, hpool ▸ hstep⟩

/-- A pool that comes about was opened. -/
theorem Sound.opensPool_of_act (hS : Apart S) (hL : Sound S L) {a : Action}
    (ha : L.Allows S a) (hnone : L.pool? P = none)
    (hsome : (L.act a).pool? P = some p) :
    ∃ c, a = .call c ∧ L.OpensPool c P := by
  have hkept : ¬ (L.act a).pool? P = L.pool? P := by
    rw [hnone, hsome]
    simp
  cases a with
  | call c =>
    refine ⟨c, rfl, ?_⟩
    rw [Ledger.act_call] at hkept
    rcases Ledger.result_cases hS hL ha with ⟨f, _, hsame⟩
      | ⟨event, hrun, hchange⟩
    · exact absurd (congrArg (Ledger.pool? · P) hsame) hkept
    -- Only the call that opens a pool adds one; the others find theirs.
    have hfound : ∀ {x : Seats} {p' q : Pool},
        ¬ L.StepsTo S x p' q (L.after c) := by
      intro x p' q hstep
      obtain ⟨purse, vault, bet, hsteps, heq⟩ := hstep
      rw [heq] at hkept
      by_cases hP : P = x.pool
      · rw [hP, hsteps.pool] at hnone
        cases hnone
      · exact hkept (hsteps.pool?_of_ne hS hL hP)
    generalize hM : L.after c = M at hrun hchange hkept hfound
    cases hchange with
    | @founds pool p' amount _ decoded step =>
      by_cases hP : P = pool
      · exact ⟨⟨amount, decoded⟩, hP ▸ step.named.1, _, hrun⟩
      · exact absurd (step.stored? hS hL Pool.record hP) hkept
    | stakes _ step => exact absurd step.stepsTo hfound
    | resolves _ step => exact absurd (step.stepsTo hL) hfound
    | refunds _ step => exact absurd (step.stepsTo hL) hfound
  | clock slot => exact absurd rfl hkept
  | outside accounts =>
    exact absurd (Store.Outside.stored? ha Pool.record P) hkept

/-- No bet is settled against a pool that is not there. -/
theorem Sound.settledBets_of_none (hL : Sound S L) (hp : L.pool? P = none)
    (a : Action) :
    L.settledBets P a = [] := by
  have hnone : ∀ B, Ledger.betsIn P (L.get B) = [] := by
    refine fun B => List.eq_nil_iff_forall_not_mem.2 fun b hb => ?_
    obtain ⟨hbet, hpool⟩ := Ledger.mem_betsIn_iff.1 hb
    obtain ⟨p, hp', _⟩ := (hL.bet B b hbet).pool
    rw [hpool, hp] at hp'
    cases hp'
  have hsettled : ∀ event, L.settledBy P event = [] := by
    intro event
    cases event with
    | betResolved B => exact hnone B
    | poolInitialized => rfl
    | betPlaced => rfl
    | betRefunded => rfl
  cases a with
  | call c =>
    rw [Ledger.settledBets]
    split
    next => exact hsettled _
    next => rfl
  | clock slot => rfl
  | outside accounts => rfl

section

variable {L₀ : Ledger} {run : List Action}

/-- Where no pool is at the end of a run, none was before, and no bet was
settled against it. -/
theorem Ledger.AllowsAll.settledBets_of_none (hS : Apart S) (hL₀ : L₀.Untouched)
    (hrun : L₀.AllowsAll S run) (hp : (L₀.play run).pool? P = none) :
    L₀.collect (settledBets P) run = [] := by
  revert hp
  refine AllowsAll.induction (P := fun run => (L₀.play run).pool? P = none →
    L₀.collect (settledBets P) run = []) (fun _ => rfl) ?_ hrun
  intro run a hrun ha ih hp
  have hL := hrun.sound hS hL₀
  rw [play_append] at hp
  have hbefore : (L₀.play run).pool? P = none := by
    refine Option.eq_none_iff_forall_ne_some.2 fun p hsome => ?_
    obtain ⟨q, hq⟩ := hL.follows_act hS ha hsome
    have hkept : ((L₀.play run).play [a]).pool? P = some q := hq.pool
    rw [hp] at hkept
    cases hkept
  rw [collect_append_one, ih hbefore, hL.settledBets_of_none hbefore,
    List.append_nil]

/-- A pool was opened at some point of the run. -/
theorem Ledger.AllowsAll.exists_opening (hS : Apart S) (hL₀ : L₀.Untouched)
    (hrun : L₀.AllowsAll S run) (hp : (L₀.play run).pool? P = some p) :
    ∃ before c after, run = before ++ .call c :: after
      ∧ (L₀.play before).OpensPool c P := by
  revert p
  refine AllowsAll.induction
    (P := fun run => ∀ {p}, (L₀.play run).pool? P = some p →
      ∃ before c after, run = before ++ .call c :: after
        ∧ (L₀.play before).OpensPool c P)
    (fun {p} hp => ?_) ?_ hrun
  · exact absurd (Account.owner_of_stored? hp) (hL₀ P)
  · intro run a hrun ha ih p hp
    have hL := hrun.sound hS hL₀
    rw [play_append] at hp
    have hp : ((L₀.play run).act a).pool? P = some p := hp
    cases hbefore : (L₀.play run).pool? P with
    | none =>
      obtain ⟨c, rfl, hopens⟩ := hL.opensPool_of_act hS ha hbefore hp
      exact ⟨run, c, [], rfl, hopens⟩
    | some p' =>
      obtain ⟨before, c, after, rfl, hopens⟩ := ih hbefore
      exact ⟨before, c, after ++ [a], by simp, hopens⟩

end

/-! ## Since the pool was opened -/

/-- A new vault holds what was there before, or its rent, and the first
funds. -/
theorem Ledger.Founds.ownFunds {amount : UInt64} (h : L.Founds S c P p amount M)
    (hS : Apart S) :
    M.ownFunds p = max 890880 (L.lamports p.vault) + p.initialFunding.toNat
      ∧ p.resolvedStakes = 0 := by
  have hlamports := h.lamports hS p.vault
  have hnodup := h.nodup hS
  simp only [List.nodup_cons, List.mem_cons, List.not_mem_nil, or_false,
    not_or] at hnodup
  have hfloor : (Ledger.rentMinimum 0).toNat = 890880 := by decide
  rw [Ledger.foundShift, if_neg (Ne.symm hnodup.1.2),
    if_neg (Ne.symm hnodup.2.1), if_pos rfl, Ledger.lacks, hfloor] at hlamports
  obtain ⟨_, hlocked, hwagered, hrefunded⟩ := h.counters
  obtain ⟨_, hp⟩ := Pool.create_eq_ok_iff.1 h.created
  have hpaid : p.totalPaidOut = 0 := congrArg Pool.totalPaidOut hp
  have hinitial : p.initialFunding = amount := congrArg Pool.initialFunding hp
  rw [Ledger.ownFunds, Pool.resolvedStakes, hlamports, hlocked, hwagered,
    hrefunded, hpaid, hinitial, UInt64.toNat_zero]
  omega

/-- A new pool is followed from the call that opened it to the end of the run,
and all bets that were settled against it were settled since. -/
theorem Ledger.AllowsAll.follows_opening (hS : Apart S) {L₀ : Ledger}
    (hL₀ : L₀.Untouched) {before after : List Action}
    (hrun : L₀.AllowsAll S (before ++ .call c :: after))
    (hopens : (L₀.play before).OpensPool c P)
    (hp : (L₀.play (before ++ .call c :: after)).pool? P = some p) :
    ∃ p₀, p₀.vault = p.vault ∧ p₀.initialFunding = p.initialFunding
      ∧ ((L₀.play before).after c).ownFunds p₀
        = max 890880 ((L₀.play before).lamports p₀.vault)
          + p₀.initialFunding.toNat
      ∧ p₀.resolvedStakes = 0
      ∧ ((L₀.play before).after c).Follows
        (L₀.play (before ++ .call c :: after)) P p₀ p
        (((L₀.play before).after c).collect (gifts p.vault) after).sum
        (Bet.stakes (L₀.collect (settledBets P)
          (before ++ .call c :: after))) := by
  obtain ⟨hbefore, hc, hafter⟩ := allowsAll_append.1 hrun
  have hL := hbefore.sound hS hL₀
  obtain ⟨p₀, amount, hfounds⟩ := hL.founds_of_opensPool hS hc hopens
  obtain ⟨hown, hresolved⟩ := hfounds.ownFunds hS
  obtain ⟨q, hq⟩ :=
    (hL.after hS hc).follows_play hS hafter (hfounds.pool?_pool hS)
  rw [play_append, play_cons, act_call] at hp ⊢
  have hqp := hq.pool.symm.trans hp
  rw [Option.some.injEq] at hqp
  subst hqp
  have hfree : (L₀.play before).pool? P = none := hfounds.pool_free Pool.record
  rw [collect_append, hbefore.settledBets_of_none hS hL₀ hfree, collect,
    hL.settledBets_of_none hfree, act_call, List.nil_append, List.nil_append]
  refine ⟨p₀, hq.vault.symm, hq.initialFunding.symm, hown, hresolved, ?_⟩
  rw [hq.vault]
  exact hq

/-- In every run, what the vault of a pool holds and what its pool has counted
as paid out and refunded come to what its house brought, what was wagered, and
what was given to the vault since. What was wagered, is not locked and was not
refunded are the stakes of the bets that were settled. -/
theorem Ledger.Untouched.vault_accounted (hS : Apart S) {L₀ : Ledger}
    (hL₀ : L₀.Untouched) {run : List Action} (hrun : L₀.AllowsAll S run)
    (hp : (L₀.play run).pool? P = some p) :
    find? (.pool p.house) = some (P, p.bump)
      ∧ find? (.vault p.house) = some (p.vault, p.vaultBump)
      ∧ (∃ before c after, run = before ++ .call c :: after
        ∧ (L₀.play before).OpensPool c P)
      ∧ (∀ before c after, run = before ++ .call c :: after →
        (L₀.play before).OpensPool c P →
        (L₀.play run).lamports p.vault + p.totalPaidOut.toNat
          + p.totalRefunded.toNat
          = max 890880 ((L₀.play before).lamports p.vault)
            + p.initialFunding.toNat
            + p.totalWagered.toNat
            + (((L₀.play before).after c).collect (gifts p.vault) after).sum)
      ∧ (p.totalWagered.toNat - p.totalRefunded.toNat
        - p.lockedStakes.toNat : ℤ)
        = Bet.stakes (L₀.collect (settledBets P) run) := by
  have hstands := ((hrun.sound hS hL₀).pool P p hp).stands
  have hopening := hrun.exists_opening hS hL₀ hp
  refine ⟨hstands.find, hstands.vaultFind, hopening, ?_, ?_⟩
  · rintro before c after rfl hopens
    obtain ⟨p₀, hvault, hinitial, hown, _, hfollows⟩ :=
      hrun.follows_opening hS hL₀ hopens hp
    have hfunds := hfollows.ownFunds
    rw [hown, hvault, hinitial, Ledger.ownFunds] at hfunds
    omega
  · obtain ⟨before, c, after, rfl, hopens⟩ := hopening
    obtain ⟨p₀, _, _, _, hresolved, hfollows⟩ :=
      hrun.follows_opening hS hL₀ hopens hp
    have hstakes := hfollows.resolvedStakes
    rw [hresolved, Int.zero_add] at hstakes
    exact hstakes

namespace Sample

/-- Somebody sends the vault seven lamports, and the house settles the bet. -/
def won : List Action :=
  [.outside (ledger.setLamports vault 101890887).accounts, .call settling]

def settled : List Action := placed ++ won

theorem gift_fits : (ledger.get vault).lamports ≤ 101890887 := by
  rw [vault_holds]
  decide

theorem settled_allowed : start.AllowsAll (Known addresses) settled := by
  refine Ledger.allowsAll_append.2 ⟨placed_allowed, ?_⟩
  rw [play_placed]
  exact ⟨Ledger.allows_gift _ gift_fits, settling_lawful, trivial⟩

theorem opening_opensPool : start.OpensPool opening pool := by
  have hok : (start.run opening).result.toOption.isSome := by decide +kernel
  obtain ⟨r, hr⟩ := Option.isSome_iff_exists.1 hok
  exact ⟨⟨_, Request.decode_encode _⟩, rfl, r, toOption_eq_some_iff.1 hr⟩

end Sample

/-- The bet of the first run has won 1970000. -/
theorem vault_accounted_first_run :
    (Sample.start.play Sample.settled).lamports Sample.vault + 1970000
        = 890880 + 100000000 + 1000000 + 7
      ∧ Bet.stakes
          (Sample.start.collect (Ledger.settledBets Sample.pool) Sample.settled)
        = 1000000 := by
  have hstored : (Sample.start.play Sample.settled).pool? Sample.pool
      = some ⟨Sample.house, 255, Sample.vault, 255, 5, 100000000, 0, 0,
        1000000, 1970000, 0, 1⟩ := by
    decide +kernel
  obtain ⟨_, _, _, hvault, hstakes⟩ :=
    Ledger.Untouched.vault_accounted Sample.apart
      Sample.start_untouched Sample.settled_allowed hstored
  have hidentity :=
    hvault [] Sample.opening (.call Sample.betting :: Sample.won) rfl
      Sample.opening_opensPool
  have hplay : (Sample.start.after Sample.opening).after Sample.betting
      = Sample.ledger := by
    rw [Sample.ledger]
  have hgift :
      (Sample.ledger.setLamports Sample.vault 101890887).get Sample.vault
        = { Sample.ledger.get Sample.vault with lamports := 101890887 } :=
    (Ledger.get_setLamports_of_le Sample.gift_fits _).trans (if_pos rfl)
  have hgifts :
      (Sample.ledger.collect (Ledger.gifts Sample.vault) Sample.won).sum
        = 7 := by
    show ((((Sample.ledger.setLamports Sample.vault 101890887).get
          Sample.vault).lamports.toNat : ℤ)
        - Sample.ledger.lamports Sample.vault) + 0 = 7
    rw [hgift, Ledger.lamports, Sample.vault_holds]
    rfl
  have hnone : Sample.start.lamports Sample.vault = 0 := by decide +kernel
  rw [Ledger.play_nil, Ledger.collect, Ledger.gifts, List.nil_append,
    Ledger.act_call, hplay, hgifts, hnone] at hidentity
  have hstakes : (1000000 - 0 - 0 : ℤ)
      = Bet.stakes (Sample.start.collect
        (Ledger.settledBets Sample.pool) Sample.settled) := hstakes
  have hidentity :
      (Sample.start.play Sample.settled).lamports Sample.vault + 1970000 + 0
        = max 890880 0 + 100000000 + 1000000 + 7 := hidentity
  omega

end HouseDice
