import HouseDice.Proofs.Accounting
import HouseDice.Proofs.Outflow
import HouseDice.Proofs.Replay

/-!
# What stays

A pool is for good. A house opens one, and never another; no call closes it, and
no call writes who it belongs to, where its vault is, or what it began with.
What it counts up, the wagers, the payouts and the refunds, it never counts
down.

A bet is for its time. Every call about a bet is given its account to write, and
none writes it, but the call that places it and the call that closes it. So what
the house signs, and what a settlement or a refund pays, is what was agreed when
the bet was placed. Nothing that is sent to the account, and no attempt to place
another bet there, comes between.

Both are read off one step at a time: every change moves a pool forward or
leaves it, and every call that goes well about an open bet closes it.
-/

namespace HouseDice

open Address

variable {S : Set Purpose} {L M : Ledger} {c : Call} {x : Seats} {b : Bet}
  {p q r : Pool} {P B H : Key} {event : Event}

/-! ## Pools -/

/-- The pool `q` is what the pool `p` may become. -/
structure Pool.Later (p q : Pool) : Prop where
  house : q.house = p.house
  bump : q.bump = p.bump
  vault : q.vault = p.vault
  vaultBump : q.vaultBump = p.vaultBump
  createdSlot : q.createdSlot = p.createdSlot
  initialFunding : q.initialFunding = p.initialFunding
  version : q.version = p.version
  totalWagered : p.totalWagered ≤ q.totalWagered
  totalPaidOut : p.totalPaidOut ≤ q.totalPaidOut
  totalRefunded : p.totalRefunded ≤ q.totalRefunded

namespace Pool

theorem Later.refl (p : Pool) : p.Later p :=
  ⟨rfl, rfl, rfl, rfl, rfl, rfl, rfl, UInt64.le_refl _, UInt64.le_refl _,
    UInt64.le_refl _⟩

theorem Later.trans (h : p.Later q) (h' : q.Later r) : p.Later r where
  house := h'.house.trans h.house
  bump := h'.bump.trans h.bump
  vault := h'.vault.trans h.vault
  vaultBump := h'.vaultBump.trans h.vaultBump
  createdSlot := h'.createdSlot.trans h.createdSlot
  initialFunding := h'.initialFunding.trans h.initialFunding
  version := h'.version.trans h.version
  totalWagered := UInt64.le_trans h.totalWagered h'.totalWagered
  totalPaidOut := UInt64.le_trans h.totalPaidOut h'.totalPaidOut
  totalRefunded := UInt64.le_trans h.totalRefunded h'.totalRefunded

section

variable {lamports floor : UInt64}

theorem later_of_accept {amount : UInt64} {roll : UInt8}
    (h : p.after (accept lamports floor amount roll) = .ok ((), q)) :
    p.Later q := by
  obtain ⟨_, _, openBets, lockedStakes, totalWagered, _, _, hwagered, rfl⟩ :=
    after_accept_eq_ok_iff.1 h
  refine { Later.refl p with totalWagered := UInt64.le_iff_toNat_le.2 ?_ }
  show p.totalWagered.toNat ≤ totalWagered.toNat
  omega

theorem later_of_settle {s : Signature} {t : Game.Settlement}
    (h : p.after (settle lamports floor b s) = .ok (t, q)) : p.Later q := by
  obtain ⟨_, _, openBets, lockedStakes, totalPaidOut, _, _, hpaid, rfl⟩ :=
    after_settle_eq_ok_iff.1 h
  refine { Later.refl p with totalPaidOut := UInt64.le_iff_toNat_le.2 ?_ }
  show p.totalPaidOut.toNat ≤ totalPaidOut.toNat
  omega

theorem later_of_refund {slot owed : UInt64}
    (h : p.after (refund b slot) = .ok (owed, q)) :
    p.Later q := by
  obtain ⟨_, _, openBets, lockedStakes, totalRefunded, _, _, hrefunded, rfl⟩ :=
    after_refund_eq_ok_iff.1 h
  refine { Later.refl p with totalRefunded := UInt64.le_iff_toNat_le.2 ?_ }
  show p.totalRefunded.toNat ≤ totalRefunded.toNat
  omega

end

end Pool

/-- No change loses a pool, and none takes back what is written in it. -/
theorem Ledger.Change.later (hS : Apart S) (hL : Sound S L)
    (h : L.Change S c M event) (hp : L.pool? P = some p) :
    ∃ q, M.pool? P = some q ∧ p.Later q := by
  have hmoved : ∀ {x : Seats} {p' q : Pool}, L.StepsTo S x p' q M → p'.Later q →
      ∃ q, M.pool? P = some q ∧ p.Later q := by
    intro x p' q hstep hlater
    rcases hstep.pool_cases hS hL hp with ⟨_, rfl, hq⟩ | ⟨_, hsame⟩
    · exact ⟨q, hq, hlater⟩
    · exact ⟨p, hsame, .refl p⟩
  cases h with
  | founds _ step => exact ⟨p, (step.follows hS hL hp).pool, .refl p⟩
  | stakes _ step =>
    exact hmoved step.stepsTo (Pool.later_of_accept step.counted)
  | resolves _ step =>
    exact hmoved (step.stepsTo hL) (Pool.later_of_settle step.counted)
  | refunds _ step =>
    exact hmoved (step.stepsTo hL) (Pool.later_of_refund step.counted)

namespace Sound

theorem later_act (hS : Apart S) (hL : Sound S L) {a : Action}
    (ha : L.Allows S a) (hp : L.pool? P = some p) :
    ∃ q, (L.act a).pool? P = some q ∧ p.Later q := by
  cases a with
  | call c =>
    rw [Ledger.act_call]
    rcases Ledger.after_eq_or_change hS hL ha with hsame | ⟨event, hchange⟩
    · rw [hsame]
      exact ⟨p, hp, .refl p⟩
    · exact hchange.later hS hL hp
  | clock slot => exact ⟨p, hp, .refl p⟩
  | outside accounts =>
    exact ⟨p, (Store.Outside.stored? ha Pool.record P).trans hp, .refl p⟩

/-- A pool is there from the moment it is there, and only moves forward. -/
theorem later_play (hS : Apart S) (hL : Sound S L) {run : List Action}
    (hrun : L.AllowsAll S run) (hp : L.pool? P = some p) :
    ∃ q, (L.play run).pool? P = some q ∧ p.Later q := by
  induction run generalizing L p with
  | nil => exact ⟨p, hp, .refl p⟩
  | cons a rest ih =>
    obtain ⟨q, hq, hlater⟩ := hL.later_act hS hrun.1 hp
    obtain ⟨r, hr, hlater'⟩ := ih (hL.act hS hrun.1) hrun.2 hq
    exact ⟨r, hr, hlater.trans hlater'⟩

end Sound

/-! ## One pool for a house -/

/-- The house that a call asks to open a pool for. -/
def Call.founder? (c : Call) : Option Key :=
  match Request.decode c.data with
  | .ok (.initializePool _) => c.key? 2
  | .ok _ | .error _ => none

/-- The house for which a step opens a pool. -/
def Ledger.foundings (L : Ledger) : Action → List Key
  | .call c =>
    match (L.run c).result with
    | .ok _ => c.founder?.toList
    | .error _ => []
  | .clock _ | .outside _ => []

/-- A step that opens a pool opens it for a house that had none. -/
theorem Sound.foundings_act (hS : Apart S) (hL : Sound S L) {a : Action}
    (ha : L.Allows S a) :
    L.foundings a = [] ∨ ∃ P p, L.foundings a = [p.house]
      ∧ (L.act a).pool? P = some p
      ∧ ∀ Q q, L.pool? Q = some q → q.house ≠ p.house := by
  cases a with
  | call c =>
    rcases Ledger.result_cases hS hL ha with ⟨f, hrun, _⟩
      | ⟨event, hrun, hchange⟩
    · exact .inl (by simp only [Ledger.foundings, hrun])
    have hread : L.foundings (.call c) = c.founder?.toList := by
      simp only [Ledger.foundings, hrun]
    rw [hread, Ledger.act_call]
    generalize L.after c = M at hchange
    cases hchange with
    | @founds P p amount _ decoded step =>
      right
      refine ⟨P, p, ?_, step.pool?_pool hS, fun Q q hq => step.house_ne hL hq⟩
      simp only [Call.founder?, decoded, step.named.2.2.1, Option.toList_some]
    | stakes decoded _ =>
      exact .inl (by simp only [Call.founder?, decoded, Option.toList_none])
    | resolves decoded _ =>
      exact .inl (by simp only [Call.founder?, decoded, Option.toList_none])
    | refunds decoded _ =>
      exact .inl (by simp only [Call.founder?, decoded, Option.toList_none])
  | clock slot => exact .inl rfl
  | outside accounts => exact .inl rfl

/-- No house opens two pools, because the first is there when the second is
asked for. -/
theorem Ledger.AllowsAll.foundings_nodup (hS : Apart S) {L₀ : Ledger}
    (hL₀ : L₀.Untouched) {run : List Action} (hrun : L₀.AllowsAll S run) :
    (L₀.collect foundings run).Nodup
      ∧ ∀ H ∈ L₀.collect foundings run, ∃ P p,
        (L₀.play run).pool? P = some p ∧ p.house = H := by
  refine AllowsAll.induction (P := fun run => (L₀.collect foundings run).Nodup
      ∧ ∀ H ∈ L₀.collect foundings run, ∃ P p,
        (L₀.play run).pool? P = some p ∧ p.house = H)
    ⟨List.nodup_nil, fun H hH => nomatch hH⟩ ?_ hrun
  intro run a hrun ha ih
  obtain ⟨hnodup, hthere⟩ := ih
  have hL := hrun.sound hS hL₀
  have hkept : ∀ H ∈ L₀.collect foundings run,
      ∃ P p, ((L₀.play run).act a).pool? P = some p ∧ p.house = H := by
    intro H hH
    obtain ⟨P, p, hp, hhouse⟩ := hthere H hH
    obtain ⟨q, hq, hlater⟩ := hL.later_act hS ha hp
    exact ⟨P, q, hq, hlater.house.trans hhouse⟩
  rw [collect_append_one, play_append, play_cons, play_nil]
  rcases hL.foundings_act hS ha with hnone | ⟨P, p, hone, hp, hfresh⟩
  · rw [hnone, List.append_nil]
    exact ⟨hnodup, hkept⟩
  · rw [hone]
    constructor
    · refine List.nodup_append.2 ⟨hnodup, by simp, fun H hH K hK heq => ?_⟩
      obtain ⟨Q, q, hq, hhouse⟩ := hthere H hH
      exact hfresh Q q hq (hhouse.trans (heq.trans (List.mem_singleton.1 hK)))
    · intro H hH
      rcases List.mem_append.1 hH with hbefore | hnew
      · exact hkept H hbefore
      · exact ⟨P, p, hp, (List.mem_singleton.1 hnew).symm⟩

/-! ## Bets -/

/-- Whatever goes well about an open bet closes it, on the terms that stand in
its account. -/
theorem Ledger.Change.closes_open (hS : Apart S) (hL : Sound S L)
    (h : L.Change S c M event) {kind : Request.Kind}
    (hdeed : c.deed? B = some kind) (hb : L.bet? B = some b) :
    ∃ x p paid, L.Holds x b p ∧ x.bet = B ∧ L.Authorised c x.house b paid
      ∧ L.PaysFor M x.house x.vault B b paid ∧ M.content B = Account.plain := by
  cases h with
  | founds decoded step => simp [Call.deed?, decoded, Request.kind] at hdeed
  | stakes decoded step =>
    obtain ⟨rfl, _⟩ :=
      Call.eq_of_deed decoded step.seated (by simp [Request.kind]) hdeed
    have hfree : L.bet? _ = none := step.blank Bet.record
    rw [hb] at hfree
    cases hfree
  | resolves decoded step =>
    obtain ⟨rfl, _⟩ :=
      Call.eq_of_deed decoded step.seated (by simp [Request.kind]) hdeed
    cases step.holds.bet.symm.trans hb
    exact ⟨_, _, _, step.holds, rfl, step.authorised decoded,
      step.closes.paysFor hS hL step.holds
        (Pool.releases_of_settle step.counted), (step.moves hS hL).bet⟩
  | refunds decoded step =>
    obtain ⟨rfl, _⟩ :=
      Call.eq_of_deed decoded step.seated (by simp [Request.kind]) hdeed
    cases step.holds.bet.symm.trans hb
    exact ⟨_, _, _, step.holds, rfl, step.authorised decoded,
      step.closes.paysFor hS hL step.holds
        (Pool.releases_of_refund step.counted), (step.moves hS hL).bet⟩

/-- A bet that was placed was reported with the terms that stand in its
account. -/
theorem Sound.report_of_places (hS : Apart S) (hL : Sound S L) (hc : c.Lawful S)
    (h : L.Places c H B b) : (L.run c).result
      = .ok (L.after c,
        .betPlaced B b.player b.pool b.seed b.amount b.roll b.slot) := by
  obtain ⟨⟨M, event⟩, hrun⟩ := h.succeeds
  have hafter : L.after c = M := by rw [Ledger.after, hrun]
  have hstored := h.stored
  have hdeed := h.asked
  rw [hafter] at hstored ⊢
  cases Ledger.change_of_run hS hL hc hrun with
  | founds decoded step => simp [Call.deed?, decoded, Request.kind] at hdeed
  | stakes decoded step =>
    obtain ⟨rfl, _⟩ :=
      Call.eq_of_deed decoded step.seated (by simp [Request.kind]) hdeed
    cases (step.bet?_bet hS).symm.trans hstored
    exact hrun
  | resolves decoded step =>
    cases (Call.eq_of_deed decoded step.seated (by simp [Request.kind]) hdeed).2
  | refunds decoded step =>
    cases (Call.eq_of_deed decoded step.seated (by simp [Request.kind]) hdeed).2

/-- While nobody closes a bet its account keeps every byte, and what closes it
uses them. -/
theorem Sound.bet_kept (hS : Apart S) (hL : Sound S L) (hc : c.Lawful S)
    (h : L.Places c H B b) {run : List Action}
    (hrun : (L.after c).AllowsAll S run)
    (hopen : ∀ kind ∈ (L.after c).collect (Ledger.deeds B) run,
      kind ≠ .resolveBet ∧ kind ≠ .refundBet) :
    ((L.after c).play run).content B = (Key.game, Bet.record.encode b)
      ∧ ∀ d, Call.Lawful S d → ∀ kind, d.deed? B = some kind →
        ∀ M event, (((L.after c).play run).run d).result = .ok (M, event) →
          ∃ V paid, ((L.after c).play run).Authorised d H b paid
            ∧ ((L.after c).play run).PaysFor M H V B b paid
            ∧ M.content B = Account.plain := by
  have hM := hL.after hS hc
  have hN := hM.play hS hrun
  have hb : ((L.after c).play run).bet? B = some b := by
    refine Decidable.byContradiction fun hgone => ?_
    rcases hM.closed_of_gone hS hrun h.stored hgone with hsettled
      | ⟨hrefunded, _⟩
    · exact (hopen _ hsettled).1 rfl
    · exact (hopen _ hrefunded).2 rfl
  refine ⟨hN.content_of_bet? hb, fun d hd kind hdeed M event hrun' => ?_⟩
  obtain ⟨y, p, paid, hholds, hbet, hauthorised, hpays, hplain⟩ :=
    (Ledger.change_of_run hS hN hd hrun').closes_open hS hN hdeed hb
  -- The player and the address tell the seats, and so the house.
  obtain ⟨x, seed, amount, roll, bump, _, _, hstakes, rfl, rfl, rfl⟩ :=
    hL.stakes_of_places hS hc h
  have hseats : y = x :=
    (hholds.stand hN).eq_of_bet hS hstakes.stand hbet hholds.player.symm
  subst hseats
  exact ⟨y.vault, paid, hauthorised, hpays, hplain⟩

/-! ## Whole runs -/

/-- In every run a house opens at most one pool. From then on the pool's account
is the program's and holds a pool with the same house, bumps, vault, slot, first
funds and version, whose totals do not go down. And from the call that places a
bet until one that closes it, the bet's account holds the same bytes, those of
the terms that were reported; so the call that closes it has the house's word
for the message of these terms and pays by them, or pays back the stake in
them. -/
theorem Ledger.Untouched.pools_stay_bets_stand (hS : Apart S) {L₀ : Ledger}
    (hL₀ : L₀.Untouched) {run : List Action} (hrun : L₀.AllowsAll S run) :
    (L₀.collect foundings run).Nodup
    ∧ (∀ before c between after P,
      run = before ++ .call c :: (between ++ after) →
      (L₀.play before).OpensPool c P →
        ∃ p q, (((L₀.play before).after c).play between).content P
            = (Key.game, Pool.record.encode p)
          ∧ c.key? 2 = some p.house
          ∧ (L₀.play run).content P = (Key.game, Pool.record.encode q)
          ∧ p.Later q)
    ∧ ∀ before c between H B b, run = before ++ .call c :: between →
      (L₀.play before).Places c H B b →
      (∀ kind ∈ ((L₀.play before).after c).collect (deeds B) between,
        kind ≠ .resolveBet ∧ kind ≠ .refundBet) →
        ((L₀.play before).run c).result = .ok ((L₀.play before).after c,
            .betPlaced B b.player b.pool b.seed b.amount b.roll b.slot)
          ∧ ((L₀.play before).after c).content B
            = (Key.game, Bet.record.encode b)
          ∧ (L₀.play run).content B = (Key.game, Bet.record.encode b)
          ∧ ∀ d, Call.Lawful S d → ∀ kind, d.deed? B = some kind →
            ∀ M event, ((L₀.play run).run d).result = .ok (M, event) →
              ∃ V paid, (L₀.play run).Authorised d H b paid
                ∧ (L₀.play run).PaysFor M H V B b paid
                ∧ M.content B = Account.plain := by
  refine ⟨(hrun.foundings_nodup hS hL₀).1, ?_, ?_⟩
  · rintro before c between after P rfl hopens
    obtain ⟨hbefore, hc, hrest⟩ := allowsAll_append.1 hrun
    obtain ⟨hbetween, hafter⟩ := allowsAll_append.1 hrest
    have hL := hbefore.sound hS hL₀
    have hM := hL.after hS hc
    have hN := hM.play hS hbetween
    obtain ⟨p₀, amount, hfounds⟩ := hL.founds_of_opensPool hS hc hopens
    obtain ⟨p, hp, hlater⟩ := hM.later_play hS hbetween (hfounds.pool?_pool hS)
    obtain ⟨q, hq, hlater'⟩ := hN.later_play hS hafter hp
    rw [play_append, play_cons, act_call, play_append]
    exact ⟨p, q, hN.content_of_pool? hp, hlater.house ▸ hfounds.named.2.2.1,
      (hN.play hS hafter).content_of_pool? hq, hlater'⟩
  · rintro before c between H B b rfl hplaces hopen
    obtain ⟨hbefore, hc, hbetween⟩ := allowsAll_append.1 hrun
    have hL := hbefore.sound hS hL₀
    rw [play_append, play_cons, act_call]
    obtain ⟨hkept, hcloses⟩ := hL.bet_kept hS hc hplaces hbetween hopen
    exact ⟨hL.report_of_places hS hc hplaces,
      (hL.after hS hc).content_of_bet? hplaces.stored, hkept, hcloses⟩

namespace Sample

/-- Somebody sends lamports to the open bet, and the player tries to place it
again. -/
def meddling : List Action :=
  [.outside (ledger.setLamports bet 1628647).accounts, .call betting]

theorem meddling_allowed :
    start.AllowsAll (Known addresses)
      ([.call opening] ++ .call betting :: meddling) := by
  have hgift : (ledger.get bet).lamports ≤ 1628647 := by decide +kernel
  exact ⟨opening_lawful, betting_lawful, Ledger.allows_gift _ hgift,
    betting_lawful, trivial⟩

theorem meddling_closes_nothing :
    ((start.play [.call opening]).after betting).collect
      (Ledger.deeds bet) meddling = [] := by
  decide +kernel

end Sample

/-- After all that the first bet has kept its bytes, and is settled as it was
placed. -/
theorem pools_stay_bets_stand_first_run :
    (Sample.start.collect Ledger.foundings
        ([.call Sample.opening] ++ .call Sample.betting
          :: Sample.meddling)).Nodup
      ∧ (∃ p q, (Sample.start.after Sample.opening).content Sample.pool
          = (Key.game, Pool.record.encode p) ∧ p.Later q)
      ∧ ∃ M V paid, (Sample.start.play ([.call Sample.opening]
          ++ .call Sample.betting :: Sample.meddling)).PaysFor M
            Sample.house V Sample.bet
            ⟨Sample.player, Sample.pool, 0, 5, 50, 1000000, 255⟩ paid := by
  obtain ⟨hnodup, hpools, hbets⟩ :=
    Ledger.Untouched.pools_stay_bets_stand Sample.apart
      Sample.start_untouched Sample.meddling_allowed
  obtain ⟨p, q, hp, _, _, hlater⟩ := hpools [] Sample.opening []
    (.call Sample.betting :: Sample.meddling) Sample.pool rfl
    Sample.opening_opensPool
  rw [Ledger.play_nil, Ledger.play_nil] at hp
  have hopen : ∀ kind ∈ ((Sample.start.play [.call Sample.opening]).after
      Sample.betting).collect (Ledger.deeds Sample.bet) Sample.meddling,
      kind ≠ .resolveBet ∧ kind ≠ .refundBet := by
    rw [Sample.meddling_closes_nothing]
    intro kind hkind
    cases hkind
  obtain ⟨_, _, _, hcloses⟩ :=
    hbets [.call Sample.opening] Sample.betting Sample.meddling
      Sample.house Sample.bet _ rfl Sample.places_first hopen
  have hsettles : ((Sample.start.play ([.call Sample.opening]
      ++ .call Sample.betting :: Sample.meddling)).run
        Sample.settling).result.toOption.isSome := by
    decide +kernel
  have hdeed : Sample.settling.deed? Sample.bet = some .resolveBet := by
    decide +kernel
  obtain ⟨⟨M, event⟩, hrun⟩ := Option.isSome_iff_exists.1 hsettles
  obtain ⟨V, paid, _, hpays, _⟩ :=
    hcloses Sample.settling Sample.settling_lawful .resolveBet hdeed
      M event (toOption_eq_some_iff.1 hrun)
  exact ⟨hnodup, ⟨p, q, hp, hlater⟩, M, V, paid, hpays⟩

end HouseDice
