import HouseDice.Proofs.Counters

/-!
# What a rejected call leaves of a pool

On the ledger a call that fails leaves everything as it was. A pool by itself is
changed one counter after the other, and a call that fails half way does not put
back what it has changed. How much that can be is a matter of order. Every call
asks the rules of the game first and counts then, so what they turn down is
turned down before anything has changed, and all that can go wrong later is that
a number leaves its range. The open bets are counted first and a total last, so
no call that fails has changed a total.

A call that closes a bet counts it out before it looks for room in a total. If
the bet's stake is among the locked ones, then it is counted out entirely or not
at all, and the call fails after a change only where the total has no room.
-/

namespace HouseDice.Pool

open Counting

variable {α β : Type} {p : Pool} {Q : GameError → Pool → Prop}

/-! ## Calls that fail -/

/-- If the call fails on the pool, this is true of the cause and of the pool
that it leaves. -/
def OnFailure (p : Pool) (x : Counting α)
    (Q : GameError → Pool → Prop) : Prop :=
  ∀ e q, x.run p = .error e q → Q e q

namespace OnFailure

theorem pure (a : α) : p.OnFailure (Pure.pure a) Q := nofun

/-- A question leaves the pool as it is, whatever the answer. -/
theorem rule_bind {x : Except GameError α} {f : α → Counting β}
    (hasked : ∀ e, Q e p) (h : ∀ a, x = .ok a → p.OnFailure (f a) Q) :
    p.OnFailure (rule x >>= f) Q := by
  intro e q hfail
  rw [EStateM.run_bind, run_rule] at hfail
  cases x with
  | ok a => exact h a rfl e q hfail
  | error e' =>
    cases hfail
    exact hasked e

theorem get_bind {f : Pool → Counting β} (h : p.OnFailure (f p) Q) :
    p.OnFailure (get >>= f) Q := h

theorem update_bind {f : Pool → Option Pool} {g : Unit → Counting β}
    (hfull : f p = none → Q .mathOverflow p)
    (h : ∀ r, f p = some r → r.OnFailure (g ()) Q) :
    p.OnFailure (update f >>= g) Q := by
  intro e q hfail
  rw [EStateM.run_bind, run_update] at hfail
  cases hf : f p with
  | some r =>
    rw [hf] at hfail
    exact h r hf e q hfail
  | none =>
    rw [hf] at hfail
    cases hfail
    exact hfull hf

theorem update {f : Pool → Option Pool}
    (hfull : f p = none → Q .mathOverflow p) :
    p.OnFailure (Counting.update f) Q := by
  rw [← bind_pure (Counting.update f)]
  exact update_bind hfull fun _ _ => pure ()

/-- A bet is counted out in two steps, and the second can fail after the
first. -/
theorem release_bind {amount : UInt64} {g : Unit → Counting β}
    (hnone : Q .mathOverflow p)
    (hshort : ∀ openBets, p.lockedStakes.toNat < amount.toNat →
      Q .mathOverflow { p with openBets })
    (h : ∀ r, p.after (release amount) = .ok ((), r) → r.OnFailure (g ()) Q) :
    p.OnFailure (release amount >>= g) Q := by
  rw [release, bind_assoc]
  refine update_bind (fun _ => hnone) fun r hclosed => ?_
  obtain ⟨openBets, hopen, rfl⟩ := Option.map_eq_some_iff.1 hclosed
  refine update_bind (fun hunlock => hshort openBets ?_) fun r hunlock => h r ?_
  · exact Word.sub?_eq_none_iff.1 (Option.map_eq_none_iff.1 hunlock)
  · rw [release, after_bind, after_update, hclosed]
    exact after_update_eq_ok_iff.2 hunlock

end OnFailure

/-! ## What may have changed by then -/

/-- What a call that fails may leave of a pool: all of it, unless a number has
left its range, and in any case all but the number and the stakes of its open
bets. -/
structure Spares (p : Pool) (e : GameError) (q : Pool) : Prop where
  whole : e ≠ .mathOverflow → q = p
  rest : ∃ openBets lockedStakes, q = { p with openBets, lockedStakes }

theorem Spares.refl (p : Pool) (e : GameError) : p.Spares e p :=
  ⟨fun _ => rfl, _, _, rfl⟩

theorem Spares.overflow (p : Pool) (openBets lockedStakes : UInt64) :
    p.Spares .mathOverflow { p with openBets, lockedStakes } :=
  ⟨fun h => absurd rfl h, openBets, lockedStakes, rfl⟩

theorem Spares.of_release {q : Pool} {amount : UInt64}
    (h : p.after (release amount) = .ok ((), q)) :
    p.Spares .mathOverflow q := by
  obtain ⟨openBets, lockedStakes, _, _, rfl⟩ := after_release_eq_ok_iff.1 h
  exact .overflow p openBets lockedStakes

/-! ## The three calls -/

section

variable {vaultLamports rentFloor amount : UInt64} {roll : UInt8} {bet : Bet}
  {signature : Signature} {slot : UInt64}

theorem spares_of_accept :
    p.OnFailure (accept vaultLamports rentFloor amount roll) p.Spares := by
  refine .rule_bind (.refl p) fun _ _ =>
    .get_bind (.rule_bind (.refl p) fun _ _ => ?_)
  -- The rules have nothing against it: what is left to do is to count.
  refine .update_bind (fun _ => .refl p _) fun r hopened => ?_
  obtain ⟨openBets, _, rfl⟩ := Option.map_eq_some_iff.1 hopened
  refine .update_bind (fun _ => .overflow p openBets _) fun r hlocked => ?_
  obtain ⟨lockedStakes, _, rfl⟩ := Option.map_eq_some_iff.1 hlocked
  exact .update fun _ => .overflow p openBets lockedStakes

/-- A settlement fails with the pool as it was, or with the bet half counted
out, or where the bet is counted out and the total has no room for the
payout. -/
theorem onFailure_settle (hasked : ∀ e, Q e p)
    (hshort : ∀ openBets, p.lockedStakes.toNat < bet.amount.toNat →
      Q .mathOverflow { p with openBets })
    (hfull : ∀ s q, Game.settle bet.amount bet.roll signature = .ok s →
      UInt64.size ≤ p.totalPaidOut.toNat + s.payout.toNat →
      p.after (release bet.amount) = .ok ((), q) → Q .mathOverflow q) :
    p.OnFailure (settle vaultLamports rentFloor bet signature) Q := by
  have hcount : ∀ s, Game.settle bet.amount bet.roll signature = .ok s →
      p.OnFailure (do
        release bet.amount
        update (countPaidOut s.payout)
        pure s) Q := by
    intro s hs
    refine .release_bind (hasked _) hshort fun r hr => ?_
    refine .update_bind (fun hpaid => hfull s r hs ?_ hr) fun _ _ => .pure s
    obtain ⟨openBets, lockedStakes, _, _, rfl⟩ := after_release_eq_ok_iff.1 hr
    exact Word.add?_eq_none_iff.1 (Option.map_eq_none_iff.1 hpaid)
  refine .rule_bind hasked fun s hs => ?_
  split
  next hwon =>
    exact .get_bind (.rule_bind hasked fun _ _ =>
      .rule_bind hasked fun _ _ => hcount s hs)
  next hlost => exact hcount s hs

/-- A refund fails in the same places as a settlement. -/
theorem onFailure_refund (hasked : ∀ e, Q e p)
    (hshort : ∀ openBets, p.lockedStakes.toNat < bet.amount.toNat →
      Q .mathOverflow { p with openBets })
    (hfull : ∀ q, UInt64.size ≤ p.totalRefunded.toNat + bet.amount.toNat →
      p.after (release bet.amount) = .ok ((), q) → Q .mathOverflow q) :
    p.OnFailure (refund bet slot) Q := by
  refine .rule_bind hasked fun _ _ =>
    .release_bind (hasked _) hshort fun r hr => ?_
  refine .update_bind (fun hrefunded => hfull r ?_ hr) fun _ _ => .pure _
  obtain ⟨openBets, lockedStakes, _, _, rfl⟩ := after_release_eq_ok_iff.1 hr
  exact Word.add?_eq_none_iff.1 (Option.map_eq_none_iff.1 hrefunded)

theorem spares_of_settle :
    p.OnFailure (settle vaultLamports rentFloor bet signature) p.Spares :=
  onFailure_settle (.refl p) (fun openBets _ => .overflow p openBets _)
    fun _ _ _ _ hr => .of_release hr

theorem spares_of_refund : p.OnFailure (refund bet slot) p.Spares :=
  onFailure_refund (.refl p) (fun openBets _ => .overflow p openBets _)
    fun _ _ hr => .of_release hr

/-! Where the stake is locked, a bet is never half counted out. -/

theorem settle_of_locked (h : bet.amount ≤ p.lockedStakes) :
    p.OnFailure (settle vaultLamports rentFloor bet signature) fun _ q => q = p
      ∨ ∃ s, Game.settle bet.amount bet.roll signature = .ok s
        ∧ UInt64.size ≤ p.totalPaidOut.toNat + s.payout.toNat
        ∧ p.after (release bet.amount) = .ok ((), q) := by
  have hlocked := Nat.not_lt.2 (UInt64.le_iff_toNat_le.1 h)
  refine onFailure_settle (fun _ => .inl rfl)
    (fun _ hshort => absurd hshort hlocked) ?_
  intro s q hs hfull hq
  exact .inr ⟨s, hs, hfull, hq⟩

theorem refund_of_locked (h : bet.amount ≤ p.lockedStakes) :
    p.OnFailure (refund bet slot) fun _ q => q = p
      ∨ UInt64.size ≤ p.totalRefunded.toNat + bet.amount.toNat
        ∧ p.after (release bet.amount) = .ok ((), q) := by
  have hlocked := Nat.not_lt.2 (UInt64.le_iff_toNat_le.1 h)
  refine onFailure_refund (fun _ => .inl rfl)
    (fun _ hshort => absurd hshort hlocked) ?_
  intro q hfull hq
  exact .inr ⟨hfull, hq⟩

end

/-- A call that fails leaves the pool as it was, unless a number has left its
range, and in any case leaves all but the number and the stakes of the open
bets. Where the stake of the bet is among the locked ones, a settlement that
fails leaves the pool as it was, unless the total of payouts has no room for
this one, and a refund unless the total of refunds has none; then the bet is
counted out and nothing else has changed. -/
theorem rejections_spare_counters (p : Pool)
    (vaultLamports rentFloor : UInt64) :
    (∀ amount roll e q,
      (accept vaultLamports rentFloor amount roll).run p = .error e q →
        p.Spares e q)
      ∧ (∀ (bet : Bet) signature e q,
        (settle vaultLamports rentFloor bet signature).run p = .error e q →
          p.Spares e q
          ∧ (bet.amount ≤ p.lockedStakes →
            q = p ∨ ∃ s, Game.settle bet.amount bet.roll signature = .ok s
              ∧ UInt64.size ≤ p.totalPaidOut.toNat + s.payout.toNat
              ∧ p.after (release bet.amount) = .ok ((), q)))
      ∧ ∀ (bet : Bet) slot e q, (refund bet slot).run p = .error e q →
        p.Spares e q
        ∧ (bet.amount ≤ p.lockedStakes →
          q = p ∨ UInt64.size ≤ p.totalRefunded.toNat + bet.amount.toNat
            ∧ p.after (release bet.amount) = .ok ((), q)) := by
  refine ⟨fun _ _ => spares_of_accept, fun bet signature e q h => ?_,
    fun bet slot e q h => ?_⟩
  · exact ⟨spares_of_settle e q h,
      fun hlocked => settle_of_locked hlocked e q h⟩
  · exact ⟨spares_of_refund e q h,
      fun hlocked => refund_of_locked hlocked e q h⟩

end HouseDice.Pool

namespace HouseDice

namespace Sample

/-- A pool whose totals have no room left. -/
def full : Pool :=
  ⟨Key.system, 255, Key.system, 255, 5, 1, 1, 1000, Word.max, Word.max,
    Word.max, 1⟩

/-- The same pool once its one bet is counted out. -/
def emptied : Pool := { full with openBets := 0, lockedStakes := 0 }

/-- The one bet that is open against it. -/
def last : Bet := ⟨Block.replicate 32 7, Key.system, 0, 5, 50, 1000, 255⟩

theorem emptied_ne_full : emptied ≠ full := by decide

theorem last_locked : last.amount ≤ full.lockedStakes := by decide

end Sample

/-- Such a pool counts a bet in, or out, before it finds that a total has no
room, and its totals stay as they were. -/
theorem Pool.rejections_spare_counters_full :
    (∃ q, (accept Word.max 890880 7 50).run Sample.full = .error .mathOverflow q
      ∧ q ≠ Sample.full ∧ Sample.full.Spares .mathOverflow q)
      ∧ (∃ q,
        (settle Word.max 890880 Sample.last (Block.replicate 64 3)).run
            Sample.full = .error .mathOverflow q
        ∧ q ≠ Sample.full ∧ Sample.full.Spares .mathOverflow q
        ∧ Sample.full.after (release 1000) = .ok ((), q))
      ∧ ∃ q, (refund Sample.last 1005).run Sample.full = .error .mathOverflow q
        ∧ q ≠ Sample.full ∧ Sample.full.Spares .mathOverflow q
        ∧ Sample.full.after (release 1000) = .ok ((), q) := by
  obtain ⟨haccept, hsettle, hrefund⟩ :=
    rejections_spare_counters Sample.full Word.max 890880
  refine ⟨⟨{ Sample.full with openBets := 2, lockedStakes := 1007 },
    by rfl, by decide, ?_⟩, ⟨Sample.emptied, ?_⟩, ⟨Sample.emptied, ?_⟩⟩
  · exact haccept 7 50 _ _ (by rfl)
  · have hwon : (Game.settle 1000 50 (Block.replicate 64 3)).toOption
        = some ⟨26, 1970⟩ := by
      decide +kernel
    have hsettled :
        Game.settle Sample.last.amount Sample.last.roll (Block.replicate 64 3)
          = .ok ⟨26, 1970⟩ := toOption_eq_some_iff.1 hwon
    have hfails :
        (settle Word.max 890880 Sample.last (Block.replicate 64 3)).run
            Sample.full
          = .error .mathOverflow Sample.emptied := by
      rw [settle, hsettled]
      rfl
    obtain ⟨hspares, hwhole⟩ := hsettle _ _ _ _ hfails
    obtain ⟨_, _, _, hreleased⟩ :=
      (hwhole Sample.last_locked).resolve_left Sample.emptied_ne_full
    exact ⟨hfails, Sample.emptied_ne_full, hspares, hreleased⟩
  · have hfails : (refund Sample.last 1005).run Sample.full
        = .error .mathOverflow Sample.emptied := by rfl
    obtain ⟨hspares, hwhole⟩ := hrefund _ _ _ _ hfails
    obtain ⟨_, hreleased⟩ :=
      (hwhole Sample.last_locked).resolve_left Sample.emptied_ne_full
    exact ⟨hfails, Sample.emptied_ne_full, hspares, hreleased⟩

end HouseDice
