import HouseDice.Pool
import HouseDice.Proofs.Game.Rules

/-!
# What a call makes of a pool's counters

`Pool.after` keeps a call's pool only if the call went well, so on calls put
together from smaller ones it is the composition of `Except`. That turns each of
the three calls into a list of conditions and a list of counters, read off in
the order in which the call asks and counts. Sums and differences are those of
the natural numbers; a counter that could not be changed fails the call.

The counters that a call does not name stay as they were, and so does
everything by which a pool is known: its house, its vault and the two bumps.
-/

namespace HouseDice.Pool

open Counting

variable {α β : Type} {p q : Pool}

/-! ## Putting calls together -/

theorem after_bind (p : Pool) (x : Counting α) (f : α → Counting β) :
    p.after (x >>= f) = p.after x >>= fun r => r.2.after (f r.1) := by
  unfold after
  rw [EStateM.run_bind]
  cases x.run p <;> rfl

theorem after_pure (p : Pool) (a : α) : p.after (pure a) = .ok (a, p) := rfl

theorem after_get (p : Pool) : p.after get = .ok (p, p) := rfl

theorem after_rule (p : Pool) (x : Except GameError α) :
    p.after (rule x) = x >>= fun a => .ok (a, p) := by
  unfold after
  rw [run_rule]
  cases x <;> rfl

theorem after_update (p : Pool) (f : Pool → Option Pool) :
    p.after (update f) = demand ((f p).map fun q => ((), q)) .mathOverflow := by
  unfold after
  rw [run_update]
  cases f p <;> rfl

theorem after_rule_eq_ok_iff {x : Except GameError α} {a : α} :
    p.after (rule x) = .ok (a, q) ↔ x = .ok a ∧ p = q := by
  cases x <;> simp [after_rule, bind, Except.bind]

theorem after_update_eq_ok_iff {f : Pool → Option Pool} {u : Unit} :
    p.after (update f) = .ok (u, q) ↔ f p = some q := by
  rw [after_update, demand_eq_ok_iff]
  simp

/-! ## Calls -/

theorem after_release_eq_ok_iff {amount : UInt64} {u : Unit} :
    p.after (release amount) = .ok (u, q) ↔ ∃ openBets lockedStakes : UInt64,
      p.openBets.toNat = openBets.toNat + 1
        ∧ p.lockedStakes.toNat = lockedStakes.toNat + amount.toNat
        ∧ q = { p with openBets, lockedStakes } := by
  simp only [release, after_bind, bind_eq_ok_iff, Prod.exists,
    after_update_eq_ok_iff, countClosed, unlock, Option.map_eq_some_iff,
    Word.sub?_eq_some_iff, UInt64.toNat_one]
  constructor
  · intro h
    obtain ⟨_, _, ⟨openBets, hopen, rfl⟩, lockedStakes, hlocked, rfl⟩ := h
    exact ⟨openBets, lockedStakes, hopen, hlocked, rfl⟩
  · intro h
    obtain ⟨openBets, lockedStakes, hopen, hlocked, rfl⟩ := h
    exact ⟨(), _, ⟨openBets, hopen, rfl⟩, lockedStakes, hlocked, rfl⟩

theorem after_accept_eq_ok_iff {vaultLamports rentFloor amount : UInt64}
    {roll : UInt8} {u : Unit} :
    p.after (accept vaultLamports rentFloor amount roll) = .ok (u, q) ↔
      Game.validate amount roll = .ok ()
        ∧ (∃ most, Game.maxPayout amount roll = .ok most
          ∧ most ≤ p.spendable vaultLamports rentFloor)
        ∧ ∃ openBets lockedStakes totalWagered : UInt64,
          openBets.toNat = p.openBets.toNat + 1
            ∧ lockedStakes.toNat = p.lockedStakes.toNat + amount.toNat
            ∧ totalWagered.toNat = p.totalWagered.toNat + amount.toNat
            ∧ q = { p with openBets, lockedStakes, totalWagered } := by
  simp only [accept, after_bind, bind_eq_ok_iff, Prod.exists,
    after_rule_eq_ok_iff, after_get, after_update_eq_ok_iff,
    Game.exposure_eq_ok_iff, countOpened, lock, countWagered,
    Option.map_eq_some_iff, Word.add?_eq_some_iff, UInt64.toNat_one,
    Except.ok.injEq, Prod.mk.injEq, exists_const]
  constructor
  · intro h
    obtain ⟨_, _, ⟨hvalid, rfl⟩, _, _, ⟨rfl, rfl⟩, most, _,
      ⟨⟨hmost, hcovered⟩, rfl⟩, _, ⟨openBets, hopen, rfl⟩, _,
      ⟨lockedStakes, hlocked, rfl⟩, totalWagered, hwagered, rfl⟩ := h
    exact ⟨hvalid, ⟨most, hmost, hcovered⟩, openBets, lockedStakes,
      totalWagered, hopen, hlocked, hwagered, rfl⟩
  · intro h
    obtain ⟨hvalid, ⟨most, hmost, hcovered⟩, openBets, lockedStakes,
      totalWagered, hopen, hlocked, hwagered, rfl⟩ := h
    exact ⟨(), p, ⟨hvalid, rfl⟩, p, p, ⟨rfl, rfl⟩, most, p,
      ⟨⟨hmost, hcovered⟩, rfl⟩, _, ⟨openBets, hopen, rfl⟩, _,
      ⟨lockedStakes, hlocked, rfl⟩, totalWagered, hwagered, rfl⟩

theorem after_refund_eq_ok_iff {bet : Bet} {slot owed : UInt64} :
    p.after (refund bet slot) = .ok (owed, q) ↔
      Game.refundable bet.slot slot = .ok () ∧ owed = bet.amount
        ∧ ∃ openBets lockedStakes totalRefunded : UInt64,
          p.openBets.toNat = openBets.toNat + 1
            ∧ p.lockedStakes.toNat = lockedStakes.toNat + bet.amount.toNat
            ∧ totalRefunded.toNat = p.totalRefunded.toNat + bet.amount.toNat
            ∧ q = { p with openBets, lockedStakes, totalRefunded } := by
  simp only [refund, after_bind, bind_eq_ok_iff, Prod.exists,
    after_rule_eq_ok_iff, after_release_eq_ok_iff, after_update_eq_ok_iff,
    countRefunded, Option.map_eq_some_iff, Word.add?_eq_some_iff, after_pure,
    Except.ok.injEq, Prod.mk.injEq]
  constructor
  · intro h
    obtain ⟨_, _, ⟨hopen, rfl⟩, _, _,
      ⟨openBets, lockedStakes, hbets, hlocked, rfl⟩, _, _,
      ⟨totalRefunded, hrefunded, rfl⟩, rfl, rfl⟩ := h
    exact ⟨hopen, rfl, openBets, lockedStakes, totalRefunded, hbets, hlocked,
      hrefunded, rfl⟩
  · intro h
    obtain ⟨hopen, rfl, openBets, lockedStakes, totalRefunded, hbets, hlocked,
      hrefunded, rfl⟩ := h
    exact ⟨(), p, ⟨hopen, rfl⟩, (), _,
      ⟨openBets, lockedStakes, hbets, hlocked, rfl⟩, (), _,
      ⟨totalRefunded, hrefunded, rfl⟩, rfl, rfl⟩

/-- Too early nothing is counted and no other cause is found. -/
theorem after_refund_of_early {bet : Bet} {slot : UInt64} {e : GameError}
    (h : Game.refundable bet.slot slot = .error e) :
    p.after (refund bet slot) = .error e := by
  rw [refund, after_bind, after_rule, h, error_bind, error_bind]

/-- The end of a settlement, which counts alike whether or not the bet was
won. -/
theorem after_pay_out_eq_ok_iff {amount payout : UInt64}
    {s t : Game.Settlement} :
    p.after (do release amount; update (countPaidOut payout); pure s)
      = .ok (t, q) ↔
      s = t ∧ ∃ openBets lockedStakes totalPaidOut : UInt64,
        p.openBets.toNat = openBets.toNat + 1
          ∧ p.lockedStakes.toNat = lockedStakes.toNat + amount.toNat
          ∧ totalPaidOut.toNat = p.totalPaidOut.toNat + payout.toNat
          ∧ q = { p with openBets, lockedStakes, totalPaidOut } := by
  simp only [after_bind, bind_eq_ok_iff, Prod.exists, after_release_eq_ok_iff,
    after_update_eq_ok_iff, countPaidOut, Option.map_eq_some_iff,
    Word.add?_eq_some_iff, after_pure, Except.ok.injEq, Prod.mk.injEq]
  constructor
  · intro h
    obtain ⟨_, _, ⟨openBets, lockedStakes, hbets, hlocked, rfl⟩, _, _,
      ⟨totalPaidOut, hpaid, rfl⟩, rfl, rfl⟩ := h
    exact ⟨rfl, openBets, lockedStakes, totalPaidOut, hbets, hlocked, hpaid,
      rfl⟩
  · intro h
    obtain ⟨rfl, openBets, lockedStakes, totalPaidOut, hbets, hlocked, hpaid,
      rfl⟩ := h
    exact ⟨(), _, ⟨openBets, lockedStakes, hbets, hlocked, rfl⟩, (), _,
      ⟨totalPaidOut, hpaid, rfl⟩, rfl, rfl⟩

/-- The question that a win asks before anything is counted. -/
theorem after_cover_eq_ok_iff {vaultLamports rentFloor amount payout : UInt64}
    {rest : Counting β} {b : β} :
    p.after (do
      let p ← get
      let funds ← rule
        (demand (Word.add? (p.spendable vaultLamports rentFloor) amount)
        .mathOverflow)
      rule (Game.cover funds payout)
      rest) = .ok (b, q) ↔
      (∃ funds : UInt64,
        funds.toNat = (p.spendable vaultLamports rentFloor).toNat + amount.toNat
        ∧ payout ≤ funds) ∧ p.after rest = .ok (b, q) := by
  simp only [after_bind, bind_eq_ok_iff, Prod.exists, after_get,
    after_rule_eq_ok_iff, demand_eq_ok_iff, Word.add?_eq_some_iff, Game.cover,
    ensure_eq_ok_iff, Except.ok.injEq, Prod.mk.injEq]
  constructor
  · intro h
    obtain ⟨_, _, ⟨rfl, rfl⟩, funds, _, ⟨hfunds, rfl⟩, _, _, ⟨hcovered, rfl⟩,
      h⟩ := h
    exact ⟨⟨funds, hfunds, hcovered⟩, h⟩
  · intro h
    obtain ⟨⟨funds, hfunds, hcovered⟩, h⟩ := h
    exact ⟨p, p, ⟨rfl, rfl⟩, funds, p, ⟨hfunds, rfl⟩, (), p, ⟨hcovered, rfl⟩, h⟩

theorem after_settle_eq_ok_iff {vaultLamports rentFloor : UInt64} {bet : Bet}
    {signature : Signature} {s : Game.Settlement} :
    p.after (settle vaultLamports rentFloor bet signature) = .ok (s, q) ↔
      Game.settle bet.amount bet.roll signature = .ok s
        ∧ (s.won → ∃ funds : UInt64,
          funds.toNat = (p.spendable vaultLamports rentFloor).toNat
            + bet.amount.toNat
            ∧ s.payout ≤ funds)
        ∧ ∃ openBets lockedStakes totalPaidOut : UInt64,
          p.openBets.toNat = openBets.toNat + 1
            ∧ p.lockedStakes.toNat = lockedStakes.toNat + bet.amount.toNat
            ∧ totalPaidOut.toNat = p.totalPaidOut.toNat + s.payout.toNat
            ∧ q = { p with openBets, lockedStakes, totalPaidOut } := by
  rw [settle, after_bind, bind_eq_ok_iff]
  simp only [Prod.exists, after_rule_eq_ok_iff]
  constructor
  · intro h
    obtain ⟨t, _, ⟨hsettle, rfl⟩, h⟩ := h
    split at h
    next hwon =>
      rw [after_cover_eq_ok_iff, after_pay_out_eq_ok_iff] at h
      obtain ⟨hcovered, rfl, hcounted⟩ := h
      exact ⟨hsettle, fun _ => hcovered, hcounted⟩
    next hlost =>
      rw [after_pay_out_eq_ok_iff] at h
      obtain ⟨rfl, hcounted⟩ := h
      exact ⟨hsettle, fun hwon => absurd hwon hlost, hcounted⟩
  · intro h
    obtain ⟨hsettle, hcovered, hcounted⟩ := h
    refine ⟨s, p, ⟨hsettle, rfl⟩, ?_⟩
    split
    next hwon =>
      exact after_cover_eq_ok_iff.2
        ⟨hcovered hwon, after_pay_out_eq_ok_iff.2 ⟨rfl, hcounted⟩⟩
    next => exact after_pay_out_eq_ok_iff.2 ⟨rfl, hcounted⟩

/-! ## Settlements that fail -/

section

variable {vaultLamports rentFloor : UInt64} {bet : Bet} {signature : Signature}
  {s : Game.Settlement}

/-- A win that the pool cannot pay fails before anything is counted. -/
theorem after_settle_of_underfunded
    (hsettle : Game.settle bet.amount bet.roll signature = .ok s) (hwon : s.won)
    {funds : UInt64}
    (hfunds : funds.toNat = (p.spendable vaultLamports rentFloor).toNat
      + bet.amount.toNat) (hshort : ¬ s.payout ≤ funds) :
    p.after (settle vaultLamports rentFloor bet signature)
      = .error .poolUnderfunded := by
  have hcover : Game.cover funds s.payout = .error .poolUnderfunded :=
    ensure_eq_error_iff.2 ⟨hshort, rfl⟩
  rw [settle, after_bind, after_rule, hsettle, ok_bind, ok_bind, if_pos hwon]
  simp only [after_bind, after_get, after_rule, ok_bind,
    Word.add?_eq_some_iff.2 hfunds, demand, hcover, error_bind]

/-- A win that the pool can pay fails if it cannot be counted. -/
theorem after_settle_of_uncounted
    (hsettle : Game.settle bet.amount bet.roll signature = .ok s) (hwon : s.won)
    {funds openBets lockedStakes : UInt64}
    (hfunds : funds.toNat = (p.spendable vaultLamports rentFloor).toNat
      + bet.amount.toNat)
    (hcovered : s.payout ≤ funds)
    (hopen : p.openBets.toNat = openBets.toNat + 1)
    (hlocked : p.lockedStakes.toNat = lockedStakes.toNat + bet.amount.toNat)
    (hfull : UInt64.size ≤ p.totalPaidOut.toNat + s.payout.toNat) :
    p.after (settle vaultLamports rentFloor bet signature)
      = .error .mathOverflow := by
  have hcover : Game.cover funds s.payout = .ok () :=
    ensure_eq_ok_iff.2 hcovered
  have hrelease : p.after (release bet.amount)
      = .ok ((), { p with openBets, lockedStakes }) :=
    after_release_eq_ok_iff.2 ⟨openBets, lockedStakes, hopen, hlocked, rfl⟩
  have hcount : countPaidOut s.payout { p with openBets, lockedStakes }
      = none := by
    rw [countPaidOut, Word.add?_eq_none_iff.2 hfull, Option.map_none]
  rw [settle, after_bind, after_rule, hsettle, ok_bind, ok_bind, if_pos hwon]
  simp only [after_bind, after_get, after_rule, ok_bind,
    Word.add?_eq_some_iff.2 hfunds, demand, hcover, hrelease, after_update,
    hcount, Option.map_none, error_bind]

end

end HouseDice.Pool
