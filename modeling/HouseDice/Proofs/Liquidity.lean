import HouseDice.Proofs.Accounting
import HouseDice.Proofs.Invisible
import HouseDice.Proofs.Replay
import HouseDice.Proofs.Settlements

/-!
# What backs an open bet

A bet is taken if the most that it can pay is spendable, and then nothing of it
is set aside: the next bet is taken against the same lamports. So a bet may find
the pool short when it is settled, and what has happened in between is to blame.

What is spendable are the own funds of the vault and the stakes that were won or
lost, less what was paid out and the rent floor. Placing a bet and taking it
back leave all of that as it is, the stake being locked for as long as it is
there. Only settlements count, each for its stake less its payout, and gifts. A
bet therefore goes unpaid only if another one has won more than its own stake.
-/

namespace HouseDice

open Address

variable {S : Set Purpose} {L M N : Ledger} {c : Call} {x : Seats} {b : Bet}
  {p q : Pool} {H P B : Key} {run : List Action}

/-! ## Results -/

/-- What a settlement came to: where the bet stood, what was staked and what was
paid. -/
structure Result where
  key : Key
  stake : UInt64
  paid : UInt64
deriving DecidableEq

namespace Result

def stakes (results : List Result) : ℕ :=
  (results.map fun r => r.stake.toNat).sum

def payouts (results : List Result) : ℕ :=
  (results.map fun r => r.paid.toNat).sum

/-- The stakes of the bets that paid nothing. -/
def lost (results : List Result) : ℕ :=
  stakes (results.filter fun r => r.paid = 0)

/-- What the other bets paid beyond their stakes. -/
def won (results : List Result) : ℤ :=
  ((results.filter fun r => r.paid ≠ 0).map fun r =>
    (r.paid.toNat - r.stake.toNat : ℤ)).sum

theorem stakes_append (results more : List Result) :
    stakes (results ++ more) = stakes results + stakes more := by
  rw [stakes, List.map_append, List.sum_append, stakes, stakes]

theorem payouts_append (results more : List Result) :
    payouts (results ++ more) = payouts results + payouts more := by
  rw [payouts, List.map_append, List.sum_append, payouts, payouts]

theorem lost_sub_won (results : List Result) :
    (lost results - won results : ℤ) = stakes results - payouts results := by
  induction results with
  | nil => rfl
  | cons r rest ih =>
    simp only [lost, won, stakes, payouts, ne_eq, List.filter_cons,
      decide_eq_true_eq, List.map_cons, List.sum_cons] at ih ⊢
    by_cases hpaid : r.paid = 0
    · rw [if_pos hpaid, if_neg (not_not_intro hpaid), List.map_cons,
        List.sum_cons, hpaid, UInt64.toNat_zero]
      omega
    · rw [if_neg hpaid, if_pos hpaid, List.map_cons, List.sum_cons]
      omega

theorem won_nonpos {results : List Result}
    (h : ∀ r ∈ results, r.paid ≤ r.stake) :
    won results ≤ 0 := by
  induction results with
  | nil => exact Int.le_refl _
  | cons r rest ih =>
    have hrest := ih fun r' hr' => h r' (List.mem_cons_of_mem _ hr')
    have hpaid := UInt64.le_iff_toNat_le.1 (h r List.mem_cons_self)
    simp only [won, ne_eq, List.filter_cons, decide_eq_true_eq] at hrest ⊢
    split
    next =>
      rw [List.map_cons, List.sum_cons]
      omega
    next => exact hrest

end Result

namespace Ledger

/-- The result of a bet against the pool under `P` that an event reports as
settled. -/
def resultsOf (P : Key) (L : Ledger) (event : Event) : List Result :=
  match event with
  | .betResolved B _ _ _ _ paid => (L.settledBy P event).map fun b =>
    ⟨B, b.amount, paid⟩
  | .poolInitialized .. | .betPlaced .. | .betRefunded .. => []

/-- The results of the bets against the pool under `P`. -/
def results (P : Key) (L : Ledger) : Action → List Result
  | .call c =>
    match (L.run c).result with
    | .ok (_, event) => L.resultsOf P event
    | .error _ => []
  | .clock _ | .outside _ => []

/-- What the pool `p` has to spend. -/
def spendable (L : Ledger) (p : Pool) : UInt64 :=
  p.spendable (L.get p.vault).lamports Call.rentFloor

theorem stakes_resultsOf (L : Ledger) (P : Key) (event : Event) :
    Result.stakes (L.resultsOf P event) = Bet.stakes (L.settledBy P event) := by
  cases event with
  | betResolved B =>
    rw [resultsOf, Result.stakes, List.map_map]
    rfl
  | poolInitialized => rfl
  | betPlaced => rfl
  | betRefunded => rfl

theorem stakes_results (L : Ledger) (P : Key) (a : Action) :
    Result.stakes (L.results P a) = Bet.stakes (L.settledBets P a) := by
  cases a with
  | call c =>
    rw [results, settledBets]
    cases (L.run c).result with
    | ok r => exact L.stakes_resultsOf P r.2
    | error f => rfl
  | clock slot => rfl
  | outside accounts => rfl

/-- In a good pool the spendable lamports can be told from what the pool has
counted. -/
theorem GoodPool.toNat_spendable (h : L.GoodPool S P p) :
    ((L.spendable p).toNat : ℤ)
      = L.ownFunds p + p.resolvedStakes - p.totalPaidOut.toNat - 890880 := by
  obtain ⟨havailable, hspendable⟩ := Pool.toNat_spendable h.backed
  rw [Call.toNat_rentFloor] at havailable
  rw [spendable, ownFunds, Pool.resolvedStakes, lamports]
  omega

end Ledger

/-! ## What one step does -/

theorem Ledger.StepsTo.totalPaidOut (h : L.StepsTo S x p q M) (hS : Apart S)
    (hL : Sound S L) {paid : ℕ}
    (hpaid : q.totalPaidOut.toNat = p.totalPaidOut.toNat + paid) {p₀ q₀ : Pool}
    (hp₀ : L.pool? P = some p₀) (hq₀ : M.pool? P = some q₀) :
    q₀.totalPaidOut.toNat
      = p₀.totalPaidOut.toNat + if x.pool = P then paid else 0 := by
  rcases h.pool_cases hS hL hp₀ with ⟨rfl, rfl, hq⟩ | ⟨hne, hsame⟩
  · rw [hq₀, Option.some.injEq] at hq
    rw [if_pos rfl, hq]
    exact hpaid
  · rw [hq₀, Option.some.injEq] at hsame
    rw [if_neg (Ne.symm hne), hsame, Nat.add_zero]

theorem Ledger.payouts_of_holds (h : L.Holds x b p) (P player : Key)
    (roll outcome : UInt8) (won : Bool) (paid : UInt64) :
    Result.payouts
        (L.resultsOf P (.betResolved x.bet player roll outcome won paid))
      = if x.pool = P then paid.toNat else 0 := by
  have hbets : betsIn P (L.get x.bet) = if x.pool = P then [b] else [] := by
    have hb : (L.get x.bet).bet? = some b := h.bet
    rw [betsIn, hb, Option.toList_some, List.filter_cons, List.filter_nil,
      h.betPool]
    simp only [beq_iff_eq]
  rw [resultsOf, settledBy, hbets]
  split
  next => exact Nat.add_zero _
  next => rfl

theorem Ledger.Change.totalPaidOut (hS : Apart S) (hL : Sound S L)
    {event : Event} (h : L.Change S c M event) (hp : L.pool? P = some p)
    (hq : M.pool? P = some q) :
    q.totalPaidOut.toNat
      = p.totalPaidOut.toNat + Result.payouts (L.resultsOf P event) := by
  cases h with
  | @founds pool p' amount _ _ step =>
    have hne : P ≠ pool := by
      rintro rfl
      have hfree : L.pool? P = none := step.pool_free Pool.record
      rw [hp] at hfree
      cases hfree
    have hsame : M.pool? P = L.pool? P := step.stored? hS hL Pool.record hne
    rw [hsame, hp, Option.some.injEq] at hq
    rw [hq]
    rfl
  | stakes _ step =>
    have hstep := step.stepsTo
    obtain ⟨_, _, _, _, _, _, _, _, rfl⟩ :=
      Pool.after_accept_eq_ok_iff.1 step.counted
    have hpaid := hstep.totalPaidOut hS hL (Nat.add_zero _).symm hp hq
    rwa [ite_self] at hpaid
  | resolves _ step =>
    have hstep := step.stepsTo hL
    obtain ⟨_, _, _, _, totalPaidOut, _, _, hpaid, rfl⟩ :=
      Pool.after_settle_eq_ok_iff.1 step.counted
    rw [Ledger.payouts_of_holds step.holds]
    exact hstep.totalPaidOut hS hL hpaid hp hq
  | refunds _ step =>
    have hstep := step.stepsTo hL
    obtain ⟨_, _, _, _, _, _, _, _, rfl⟩ :=
      Pool.after_refund_eq_ok_iff.1 step.counted
    have hpaid := hstep.totalPaidOut hS hL (Nat.add_zero _).symm hp hq
    rwa [ite_self] at hpaid

theorem Sound.totalPaidOut_act (hS : Apart S) (hL : Sound S L) {a : Action}
    (ha : L.Allows S a) (hp : L.pool? P = some p)
    (hq : (L.act a).pool? P = some q) :
    q.totalPaidOut.toNat
      = p.totalPaidOut.toNat + Result.payouts (L.results P a) := by
  have hkept : (L.act a).pool? P = L.pool? P → L.results P a = [] →
      q.totalPaidOut.toNat
        = p.totalPaidOut.toNat + Result.payouts (L.results P a) := by
    intro hsame hnone
    rw [hsame, hp, Option.some.injEq] at hq
    rw [hnone, hq]
    rfl
  cases a with
  | call c =>
    rcases Ledger.result_cases hS hL ha with ⟨f, hrun, hsame⟩
      | ⟨event, hrun, hchange⟩
    · refine hkept ?_ ?_
      · rw [Ledger.act_call, hsame]
      · simp only [Ledger.results, hrun]
    · have hresults : L.results P (.call c) = L.resultsOf P event := by
        simp only [Ledger.results, hrun]
      rw [hresults]
      exact hchange.totalPaidOut hS hL hp hq
  | clock slot => exact hkept rfl rfl
  | outside accounts => exact hkept (Store.Outside.stored? ha Pool.record P) rfl

/-! ## What a run does -/

/-- The pool `p` of `L` has become `q` in `M`, while this much was given to its
vault and bets came to these results. -/
structure Ledger.Gains (L M : Ledger) (P : Key) (p q : Pool) (given : ℤ)
    (results : List Result) : Prop where
  pool : M.pool? P = some q
  house : q.house = p.house
  vault : q.vault = p.vault
  spendable : ((M.spendable q).toNat : ℤ)
    = (L.spendable p).toNat + given + Result.stakes results
      - Result.payouts results

theorem Ledger.Gains.trans {r : Pool} {given more : ℤ}
    {results others : List Result} (h : L.Gains M P p q given results)
    (h' : M.Gains N P q r more others) :
    L.Gains N P p r (given + more) (results ++ others) where
  pool := h'.pool
  house := h'.house.trans h.house
  vault := h'.vault.trans h.vault
  spendable := by
    have hfirst := h.spendable
    have hrest := h'.spendable
    rw [Result.stakes_append, Result.payouts_append]
    omega

theorem Sound.gains_act (hS : Apart S) (hL : Sound S L) {a : Action}
    (ha : L.Allows S a) (hp : L.pool? P = some p) :
    ∃ q, L.Gains (L.act a) P p q (L.gifts p.vault a).sum (L.results P a) := by
  obtain ⟨q, hfollows⟩ := hL.follows_act hS ha hp
  have hpaid := hL.totalPaidOut_act hS ha hp hfollows.pool
  have hbefore := (hL.pool P p hp).toNat_spendable
  have hafter := ((hL.act hS ha).pool P q hfollows.pool).toNat_spendable
  have hown := hfollows.ownFunds
  have hstakes := hfollows.resolvedStakes
  rw [← L.stakes_results] at hstakes
  exact ⟨q, hfollows.pool, hfollows.house, hfollows.vault, by omega⟩

theorem Sound.gains_play (hS : Apart S) (hL : Sound S L)
    (hrun : L.AllowsAll S run) (hp : L.pool? P = some p) :
    ∃ q, L.Gains (L.play run) P p q
      (L.collect (Ledger.gifts p.vault) run).sum
      (L.collect (Ledger.results P) run) := by
  induction run generalizing L p with
  | nil =>
    refine ⟨p, hp, rfl, rfl, ?_⟩
    rw [Ledger.play_nil]
    simp [Ledger.collect, Result.stakes, Result.payouts]
  | cons a rest ih =>
    obtain ⟨q, hstep⟩ := hL.gains_act hS hrun.1 hp
    obtain ⟨r, hrest⟩ := ih (hL.act hS hrun.1) hrun.2 hstep.pool
    rw [hstep.vault] at hrest
    rw [Ledger.collect, Ledger.collect, List.sum_append]
    exact ⟨r, hstep.trans hrest⟩

/-- Nothing is taken from a vault by other programs. -/
theorem Ledger.Allows.gift_nonneg {V : Key} {a : Action} (ha : L.Allows S a)
    (hV : Derived S V) :
    0 ≤ (L.gifts V a).sum := by
  cases a with
  | call c => exact Int.le_refl _
  | clock slot => exact Int.le_refl _
  | outside accounts =>
    obtain ⟨lamports, hle, hget⟩ := Store.Outside.gift ha V (.inr hV)
    have hle : (L.get V).lamports.toNat ≤ lamports.toNat :=
      UInt64.le_iff_toNat_le.1 hle
    rw [gifts, List.sum_singleton, hget, Ledger.lamports]
    show (0 : ℤ) ≤ lamports.toNat - (L.get V).lamports.toNat
    omega

theorem Ledger.AllowsAll.gifts_nonneg {V : Key} (hrun : L.AllowsAll S run)
    (hV : Derived S V) :
    0 ≤ (L.collect (gifts V) run).sum := by
  induction run generalizing L with
  | nil => exact Int.le_refl _
  | cons a rest ih =>
    have hfirst := hrun.1.gift_nonneg hV
    have hrest := ih hrun.2
    rw [collect, List.sum_append]
    omega

/-- A result is the result of a settlement. -/
theorem Sound.resolveBet_of_result (hS : Apart S) (hL : Sound S L) {a : Action}
    (ha : L.Allows S a) {r : Result} (hr : r ∈ L.results P a) :
    .resolveBet ∈ L.deeds r.key a := by
  cases a with
  | call c =>
    rcases Ledger.result_cases hS hL ha with ⟨f, hrun, _⟩
      | ⟨event, hrun, hchange⟩
    · simp only [Ledger.results, hrun] at hr
      cases hr
    · simp only [Ledger.results, hrun] at hr
      cases hchange with
      | founds _ _ => cases hr
      | stakes _ _ => cases hr
      | refunds _ _ => cases hr
      | resolves decoded step =>
        obtain ⟨_, _, rfl⟩ := List.mem_map.1 hr
        have hdeed :=
          Call.deed?_of_seated decoded step.seated (by simp [Request.kind])
        simp only [Ledger.deeds, hrun, hdeed, if_true, Request.kind,
          Option.toList_some, List.mem_singleton]
  | clock slot => cases hr
  | outside accounts => cases hr

theorem Sound.resolveBet_of_mem_results (hS : Apart S) (hL : Sound S L)
    (hrun : L.AllowsAll S run) {r : Result}
    (hr : r ∈ L.collect (Ledger.results P) run) :
    .resolveBet ∈ L.collect (Ledger.deeds r.key) run := by
  obtain ⟨before, a, after, rfl, hmem⟩ := Ledger.mem_collect_iff.1 hr
  obtain ⟨hbefore, ha, _⟩ := Ledger.allowsAll_append.1 hrun
  exact Ledger.mem_collect_iff.2
    ⟨before, a, after, rfl,
      (hL.play hS hbefore).resolveBet_of_result hS ha hmem⟩

/-! ## From placing to settling -/

/-- The bet under `B` is neither settled nor refunded during the run. -/
def Ledger.LeavesOpen (B : Key) (L : Ledger) (run : List Action) : Prop :=
  .resolveBet ∉ L.collect (deeds B) run ∧ .refundBet ∉ L.collect (deeds B) run

theorem Sound.open_of_leavesOpen (hS : Apart S) (hL : Sound S L)
    (hrun : L.AllowsAll S run) (hb : L.bet? B = some b)
    (hopen : L.LeavesOpen B run) : (L.play run).bet? B = some b := by
  refine Decidable.byContradiction fun hgone => ?_
  rcases hL.closed_of_gone hS hrun hb hgone with hsettled | ⟨hrefunded, _⟩
  · exact hopen.1 hsettled
  · exact hopen.2 hrefunded

/-- A bet is taken if the most that it can pay is spendable, and taking it
leaves that so. -/
theorem Sound.gains_of_places (hS : Apart S) (hL : Sound S L) (hc : c.Lawful S)
    (h : L.Places c H B b) : ∃ p q most, L.pool? b.pool = some p ∧ p.house = H
      ∧ L.Gains (L.after c) b.pool p q 0 []
      ∧ Game.maxPayout b.amount b.roll = .ok most
      ∧ most ≤ L.spendable p := by
  obtain ⟨x, seed, amount, roll, bump, p, _, hstakes, hhouse, _, hb⟩ :=
    hL.stakes_of_places hS hc h
  have hp : L.pool? b.pool = some p := by
    rw [hb]
    exact hstakes.pool
  obtain ⟨_, ⟨most, hmost, hle⟩, _⟩ :=
    Pool.after_accept_eq_ok_iff.1 hstakes.counted
  obtain ⟨q, hgains⟩ := hL.gains_act hS (a := .call c) hc hp
  have hnone : L.results b.pool (.call c) = [] := by
    refine List.eq_nil_iff_forall_not_mem.2 ?_
    intro r hr
    have hresolve := hL.resolveBet_of_result hS (a := .call c) hc hr
    obtain ⟨_, _, hcall, _, hdeed⟩ := Ledger.call_of_deeds hresolve
    cases hcall
    cases Call.deed?_unique h.asked hdeed
  rw [hnone] at hgains
  refine ⟨p, q, most, hp, hstakes.house.trans hhouse, hgains, ?_, ?_⟩
  · rw [hb]
    exact hmost
  · rw [Ledger.spendable, hstakes.vault]
    exact hle

/-- While the most that a bet can pay is spendable, only a full total of payouts
can keep it from being settled. -/
theorem Sound.settlement_backed (hS : Apart S) (hL : Sound S L)
    (htotal : L.total < UInt64.size) (h : L.Holds x b p)
    (hc : c.Seated .resolveBet x) {s : Signature}
    (hdecode : Request.decode c.data = .ok (.resolveBet s))
    (hvouched : Ed25519.vouchPreceding c.index c.instruction?
      ⟨x.house, b.message, s⟩ = .ok ())
    {most : UInt64} (hmost : Game.maxPayout b.amount b.roll = .ok most)
    (hbacked : most ≤ L.spendable p) {f : Failure}
    (hf : (L.run c).result = .error f) :
    f = .game .mathOverflow none := by
  have hpaid := Game.payout_of_maxPayout hmost (Game.outcome s)
  generalize hprice : (if b.roll < Game.outcome s then 0 else most)
    = paid at hpaid
  have hle : paid ≤ most := by
    rw [← hprice]
    split
    next => exact UInt64.zero_le
    next => exact UInt64.le_refl _
  obtain ⟨hok, herror⟩ := hL.settlement_result hS htotal h hc hdecode hvouched
  obtain ⟨hgood, _, hfull⟩ := h.settle_result hL hpaid
  have hcovered : paid.toNat ≤ (L.get x.vault).lamports.toNat - 890880
      - p.lockedStakes.toNat
      + b.amount.toNat := by
    obtain ⟨funds, hfunds, heq⟩ := h.funds_ok hL
    rw [Ledger.spendable, h.vault] at hbacked
    rw [UInt64.le_iff_toNat_le] at hle hbacked
    omega
  have hfails :
      ¬ (paid = 0 ∨ p.totalPaidOut.toNat + paid.toNat < UInt64.size) := by
    intro hgoes
    obtain ⟨q, hq⟩ :=
      hgood (hgoes.imp_right fun hcounted => ⟨hcovered, hcounted⟩)
    obtain ⟨r, hr⟩ := hok _ q hq
    rw [hf] at hr
    cases hr
  rw [not_or] at hfails
  have hoverflow := herror _ (hfull hfails.1 hcovered hfails.2)
  rw [hf, Except.error.injEq] at hoverflow
  exact hoverflow

/-- In every run, from the moment in which a bet is placed until it is closed,
what its pool can spend grows by the stakes of the other bets that are settled
and lost and by gifts, and shrinks by what those that are won pay beyond their
stakes. As long as none of them pays more than its stake, the house can settle
the bet, and if that fails it is not for want of lamports but because the total
of payouts is full. -/
theorem Ledger.Untouched.bet_backed (hS : Apart S) {L₀ : Ledger}
    (hL₀ : L₀.Untouched) {before after : List Action}
    (hrun : L₀.AllowsAll S (before ++ .call c :: after))
    (hplaces : (L₀.play before).Places c H B b)
    (hopen : ((L₀.play before).after c).LeavesOpen B after) :
    let start := L₀.play before
    let later := L₀.play (before ++ .call c :: after)
    let settled := (start.after c).collect (results b.pool) after
    ∃ p q, start.pool? b.pool = some p ∧ p.house = H
      ∧ later.pool? b.pool = some q ∧ q.house = H
      ∧ q.vault = p.vault ∧ later.bet? B = some b ∧ (∀ r ∈ settled, r.key ≠ B)
      ∧ ((later.spendable q).toNat : ℤ)
        = (start.spendable p).toNat + Result.lost settled
          - Result.won settled
          + ((start.after c).collect (gifts p.vault) after).sum
      ∧ (later.total < UInt64.size → (∀ r ∈ settled, r.paid ≤ r.stake) →
        ∀ (c' : Call) (s : Signature), c'.Seated .resolveBet (b.seats B q) →
          Request.decode c'.data = .ok (.resolveBet s) →
          Ed25519.vouchPreceding c'.index c'.instruction? ⟨H, b.message, s⟩
            = .ok () →
          ∀ f, (later.run c').result = .error f →
            f = .game .mathOverflow none) := by
  intro start later settled
  obtain ⟨hbefore, hc, hafter⟩ := allowsAll_append.1 hrun
  have hafter : (start.after c).AllowsAll S after := hafter
  have hstart : Sound S start := hbefore.sound hS hL₀
  have hplaced : Sound S (start.after c) := hstart.after hS hc
  have hlater : later = (start.after c).play after := by
    show L₀.play (before ++ .call c :: after) = _
    rw [play_append, play_cons, act_call]
  have hsound : Sound S later := hrun.sound hS hL₀
  obtain ⟨p, p₁, most, hp, hhouse, hplacing, hmost, hadmitted⟩ :=
    hstart.gains_of_places hS hc hplaces
  obtain ⟨q, hsince⟩ := hplaced.gains_play hS hafter hplacing.pool
  rw [hplacing.vault] at hsince
  have hgains := hplacing.trans hsince
  rw [List.nil_append, Int.zero_add, ← hlater] at hgains
  have hspendable : ((later.spendable q).toNat : ℤ) = (start.spendable p).toNat
      + ((start.after c).collect (gifts p.vault) after).sum
      + Result.stakes settled
      - Result.payouts settled := hgains.spendable
  have hsum := Result.lost_sub_won settled
  have hgifts : 0 ≤ ((start.after c).collect (gifts p.vault) after).sum :=
    hafter.gifts_nonneg (hstart.pool _ p hp).stands.vault.derived
  have hb : later.bet? B = some b := by
    rw [hlater]
    exact hplaced.open_of_leavesOpen hS hafter hplaces.stored hopen
  have hhouse' : q.house = H := hgains.house.trans hhouse
  refine ⟨p, q, hp, hhouse, hgains.pool, hhouse', hgains.vault, hb, ?_, ?_, ?_⟩
  · rintro r hr rfl
    exact hopen.1 (hplaced.resolveBet_of_mem_results hS hafter hr)
  · omega
  · intro htotal hsmall c' s hseated hdecode hvouched f hf
    have hwon := Result.won_nonpos hsmall
    have hbacked : most ≤ later.spendable q := by
      rw [UInt64.le_iff_toNat_le] at hadmitted ⊢
      omega
    obtain ⟨q', hq', hholds⟩ := hsound.holds hb
    cases hq'.symm.trans hgains.pool
    rw [← hhouse'] at hvouched
    exact hsound.settlement_backed hS htotal hholds hseated hdecode
      hvouched hmost hbacked hf

namespace Sample

/-- The house settles the second bet with some signature that loses. -/
def losing : Call where
  program := Key.game
  accounts := Call.accountsFor .resolveBet
    ({ seats with bet := second } : Seats).key
  data := (Request.resolveBet (Block.replicate 64 5)).encode
  before := [Ed25519.Check.instruction ⟨house,
    Bet.message ⟨player, pool, 1, 5, 30, 2000000, 255⟩, Block.replicate 64 5⟩]
  index := 1

/-- After the first bet somebody sends the vault seven lamports, and the second
bet is placed and lost. -/
def since : List Action :=
  [.outside (ledger.setLamports vault 101890887).accounts, .call besides,
    .call losing]

theorem since_allowed :
    start.AllowsAll (Known moreAddresses) (placed ++ since) := by
  have hopening : opening.Lawful (Known moreAddresses) :=
    Call.lawful_known find?_moreAddresses (by decide +kernel)
      (by decide +kernel)
  have hbetting : betting.Lawful (Known moreAddresses) :=
    Call.lawful_known find?_moreAddresses (by decide +kernel)
      (by decide +kernel)
  have hbesides : besides.Lawful (Known moreAddresses) :=
    Call.lawful_known find?_moreAddresses (by decide +kernel)
      (by decide +kernel)
  have hlosing : losing.Lawful (Known moreAddresses) :=
    Call.lawful_known find?_moreAddresses (by decide +kernel)
      (by decide +kernel)
  refine Ledger.allowsAll_append.2 ⟨⟨hopening, hbetting, trivial⟩, ?_⟩
  rw [play_placed]
  exact ⟨Ledger.allows_gift _ gift_fits, hbesides, hlosing, trivial⟩

/-- What the pool has to spend before the first bet, and what happens since. -/
theorem since_read : opened.pool? pool
      = some ⟨house, 255, vault, 255, 5, 100000000, 0, 0, 0, 0, 0, 1⟩
    ∧ opened.spendable
        ⟨house, 255, vault, 255, 5, 100000000, 0, 0, 0, 0, 0, 1⟩ = 100000000
    ∧ ledger.collect (Ledger.results pool) since = [⟨second, 2000000, 0⟩]
    ∧ ledger.collect (Ledger.gifts vault) since = [7]
    ∧ ledger.collect (Ledger.deeds bet) since = []
    ∧ (ledger.play since).total = 2000000008 := by
  decide +kernel

end Sample

/-- The first bet is still backed after the second one was lost. -/
theorem bet_backed_first_run :
    ∃ q, (Sample.ledger.play Sample.since).pool? Sample.pool = some q
      ∧ ((Sample.ledger.play Sample.since).spendable q).toNat
        = 100000000 + 2000000 + 7
      ∧ ((Sample.ledger.play Sample.since).run Sample.settling).result
        ≠ .error (.game .poolUnderfunded none) := by
  obtain ⟨hpool, hspendable, hresults, hgifts, hdeeds, htotal⟩ :=
    Sample.since_read
  have hstart : Sample.start.play [.call Sample.opening] = Sample.opened := by
    rw [Ledger.play_cons, Ledger.play_nil, Ledger.act_call, Sample.opened]
  have hplaced : Sample.opened.after Sample.betting = Sample.ledger := by
    rw [Sample.ledger, Sample.opened]
  have hlater :
      Sample.start.play
          ([.call Sample.opening] ++ .call Sample.betting :: Sample.since)
        = Sample.ledger.play Sample.since := by
    rw [Ledger.play_append, hstart, Ledger.play_cons, Ledger.act_call, hplaced]
  have hopen : ((Sample.start.play [.call Sample.opening]).after
      Sample.betting).LeavesOpen Sample.bet Sample.since := by
    rw [hstart, hplaced, Ledger.LeavesOpen, hdeeds]
    simp
  obtain ⟨p, q, hp, _, hq, hhouse, hvault, _, _, hgains, hsettle⟩ :=
    Ledger.Untouched.bet_backed
      Sample.more_apart Sample.start_untouched Sample.since_allowed
      Sample.places_first hopen
  rw [hstart] at hp
  rw [hlater] at hq hgains hsettle
  rw [hstart, hplaced] at hgains hsettle
  cases hp.symm.trans hpool
  rw [hspendable, hresults, hgifts] at hgains
  rw [hresults, htotal] at hsettle
  refine ⟨q, hq, Int.ofNat_inj.1 hgains, ?_⟩
  have hseats :
      Bet.seats ⟨Sample.player, Sample.pool, 0, 5, 50, 1000000, 255⟩
          Sample.bet q
        = Sample.seats := by
    rw [Bet.seats, hhouse, hvault]
    rfl
  have hvouched : Ed25519.vouchPreceding
      Sample.settling.index Sample.settling.instruction?
      ⟨Sample.house, Bet.message ⟨Sample.player, Sample.pool, 0, 5, 50, 1000000,
        255⟩, Block.replicate 64 3⟩ = .ok () :=
    Ed25519.vouchPreceding_eq_ok_iff.2 ⟨by decide, _, rfl,
      Ed25519.Check.vouches_instruction _ (by decide +kernel)⟩
  rw [hseats] at hsettle
  intro hf
  cases hsettle (by decide) (by decide) Sample.settling _
    (Call.seated_of_accounts [] rfl rfl) (Request.decode_encode _)
    hvouched _ hf

end HouseDice
