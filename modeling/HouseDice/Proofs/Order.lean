import HouseDice.Proofs.Invisible
import HouseDice.Proofs.Settlements
import Mathlib.Algebra.BigOperators.Group.List.Basic
import Mathlib.Algebra.Ring.Int.Defs

/-!
# In any order

Bets share a pool, a vault and perhaps a player, and still it makes no
difference in which order they are closed. What the end of a bet does to the
ledger can be told in advance: from the bet, the signature and what the bet's
account holds, none of which the end of another bet changes. Each end adds its
own lamports to some accounts and its own amounts to the counters of a pool, so
some ends together add the sums, and sums do not know an order.

Whether a step succeeds is another matter. A win is paid from what is spendable,
and lost stakes become spendable when their bets are closed, so a win may
succeed late and fail early. Where nobody wins, nothing is asked of the vault:
a refund waits for the clock alone, and a lost bet for nothing.
-/

namespace HouseDice

open Address

variable {S : Set Purpose} {L M N : Ledger} {c : Call} {x : Seats} {b : Bet}
  {p q r : Pool}

/-! ## How a bet ends -/

/-- The end of an open bet: by a signature of its house, or by a refund. -/
structure Ending where
  seats : Seats
  bet : Bet
  signature : Option Signature
  /-- What the account of the bet holds. -/
  held : ℤ

namespace Ending

/-- What the signature makes of the bet. -/
def payout (e : Ending) : ℕ :=
  match e.signature with
  | some s =>
    ((Game.payout e.bet.amount e.bet.roll (Game.outcome s)).toOption.map
      UInt64.toNat).getD 0
  | none => 0

/-- What is paid back without a signature. -/
def refund (e : Ending) : ℕ :=
  match e.signature with
  | some _ => 0
  | none => e.bet.amount.toNat

/-- What the end adds where. -/
def shift (e : Ending) (k : Key) : ℤ :=
  e.seats.shift ((e.payout + e.refund : ℕ) + e.held)
    (-(e.payout + e.refund : ℕ)) (-e.held) k

/-- The time has come: a refund has to wait, a signature does not. -/
def Ripe (e : Ending) (slot : UInt64) : Prop :=
  e.signature = none → Game.refundable e.bet.slot slot = .ok ()

end Ending

/-- The call asks for this end, with the right accounts and the word that it
needs. -/
def Call.Ends (c : Call) (e : Ending) : Prop :=
  match e.signature with
  | some s => Request.decode c.data = .ok (.resolveBet s)
    ∧ c.Seated .resolveBet e.seats
    ∧ Ed25519.vouchPreceding c.index c.instruction?
      ⟨e.seats.house, e.bet.message, s⟩ = .ok ()
  | none => Request.decode c.data = .ok .refundBet ∧ c.Seated .refundBet e.seats

/-- There is an open bet that the call asks to end in this way. -/
structure Ledger.Awaits (S : Set Purpose) (L : Ledger) (c : Call)
    (e : Ending) : Prop where
  lawful : c.Lawful S
  holds : ∃ p, L.Holds e.seats e.bet p
  held : L.lamports e.seats.bet = e.held
  ends : c.Ends e

/-! ## What some ends come to -/

/-- The pool `q` is `p` after these bets against it have ended. -/
structure Pool.Sheds (p q : Pool) (es : List Ending) : Prop where
  openBets : p.openBets.toNat = q.openBets.toNat + es.length
  lockedStakes : p.lockedStakes.toNat
    = q.lockedStakes.toNat + (es.map fun e => e.bet.amount.toNat).sum
  totalPaidOut : q.totalPaidOut.toNat
    = p.totalPaidOut.toNat + (es.map Ending.payout).sum
  totalRefunded : q.totalRefunded.toNat
    = p.totalRefunded.toNat + (es.map Ending.refund).sum
  rest : q = { p with
    openBets := q.openBets
    lockedStakes := q.lockedStakes
    totalPaidOut := q.totalPaidOut
    totalRefunded := q.totalRefunded }

namespace Pool.Sheds

variable {es more : List Ending}

theorem nil (p : Pool) : p.Sheds p [] := ⟨rfl, rfl, rfl, rfl, rfl⟩

theorem trans (h : p.Sheds q es) (h' : q.Sheds r more) :
    p.Sheds r (es ++ more) where
  openBets := by
    rw [h.openBets, h'.openBets, List.length_append]
    omega
  lockedStakes := by
    rw [h.lockedStakes, h'.lockedStakes, List.map_append, List.sum_append]
    omega
  totalPaidOut := by
    rw [h'.totalPaidOut, h.totalPaidOut, List.map_append, List.sum_append]
    omega
  totalRefunded := by
    rw [h'.totalRefunded, h.totalRefunded, List.map_append, List.sum_append]
    omega
  rest := by
    rw [h'.rest, h.rest]

/-- The same ends in another order leave the same pool. -/
theorem unique (h : p.Sheds q es) (h' : p.Sheds r more) (hperm : es.Perm more) :
    q = r := by
  have hlength := hperm.length_eq
  have hstakes := (hperm.map fun e => e.bet.amount.toNat).sum_eq
  have hpayouts := (hperm.map Ending.payout).sum_eq
  have hrefunds := (hperm.map Ending.refund).sum_eq
  have hopen := h.openBets.symm.trans h'.openBets
  have hlocked := h.lockedStakes.symm.trans h'.lockedStakes
  have hopenBets : q.openBets = r.openBets := UInt64.toNat_inj.1 (by omega)
  have hlockedStakes : q.lockedStakes = r.lockedStakes :=
    UInt64.toNat_inj.1 (by omega)
  have hpaid : q.totalPaidOut = r.totalPaidOut :=
    UInt64.toNat_inj.1 (by rw [h.totalPaidOut, h'.totalPaidOut, hpayouts])
  have hrefunded : q.totalRefunded = r.totalRefunded :=
    UInt64.toNat_inj.1 (by rw [h.totalRefunded, h'.totalRefunded, hrefunds])
  rw [h.rest, h'.rest, hopenBets, hlockedStakes, hpaid, hrefunded]

end Pool.Sheds

/-- The ledger `M` is `L` after these bets have ended. -/
structure Ledger.Ended (L M : Ledger) (es : List Ending) : Prop where
  slot : M.slot = L.slot
  lamports : ∀ k, M.lamports k = L.lamports k + (es.map fun e => e.shift k).sum
  pool : ∀ P p, L.pool? P = some p →
    ∃ q, M.content P = (Key.game, Pool.record.encode q)
      ∧ p.Sheds q (es.filter fun e => e.seats.pool = P)
  bet : ∀ e ∈ es, M.content e.seats.bet = Account.plain
  content : ∀ k, L.pool? k = none → (∀ e ∈ es, k ≠ e.seats.bet) →
    M.content k = L.content k

theorem Ledger.pool?_of_content_eq {k : Key} (h : M.content k = L.content k) :
    M.pool? k = L.pool? k := Account.stored?_congr h Pool.record

theorem Ledger.bet?_of_content_eq {k : Key} (h : M.content k = L.content k) :
    M.bet? k = L.bet? k := Account.stored?_congr h Bet.record

theorem Ledger.pool?_of_plain {k : Key} (h : L.content k = Account.plain) :
    L.pool? k = none := by
  refine Account.stored?_of_owner_ne ?_
  rw [(Account.content_eq_plain_iff.1 h).1]
  exact Key.system_ne_game

namespace Ledger.Ended

variable {es more : List Ending}

theorem nil (hL : Sound S L) : L.Ended L [] where
  slot := rfl
  lamports k := by rw [List.map_nil, List.sum_nil, Int.add_zero]
  pool P p hp := ⟨p, hL.content_of_pool? hp, .nil p⟩
  bet e he := by cases he
  content k _ _ := rfl

theorem trans (h : L.Ended M es) (h' : M.Ended N more) :
    L.Ended N (es ++ more) where
  slot := h'.slot.trans h.slot
  lamports k := by
    rw [h'.lamports, h.lamports, List.map_append, List.sum_append,
      Int.add_assoc]
  pool P p hp := by
    obtain ⟨q, hq, hsheds⟩ := h.pool P p hp
    obtain ⟨r, hr, hsheds'⟩ := h'.pool P q (pool?_of_content hq)
    refine ⟨r, hr, ?_⟩
    rw [List.filter_append]
    exact hsheds.trans hsheds'
  bet e he := by
    by_cases hmore : ∃ e' ∈ more, e.seats.bet = e'.seats.bet
    · obtain ⟨e', he', hbet⟩ := hmore
      rw [hbet]
      exact h'.bet e' he'
    · -- The bet was ended before, and nobody opens another one there.
      have hplain :=
        h.bet e ((List.mem_append.1 he).resolve_right fun he' =>
          hmore ⟨e, he', rfl⟩)
      rw [h'.content _ (pool?_of_plain hplain) fun e' he' hbet =>
        hmore ⟨e', he', hbet⟩]
      exact hplain
  content k hk hout := by
    have hsame := h.content k hk fun e he => hout e (List.mem_append_left _ he)
    rw [h'.content k ((pool?_of_content_eq hsame).trans hk)
      fun e he => hout e (List.mem_append_right _ he), hsame]

/-- The same ends in another order leave the same ledger. -/
theorem unique (h : L.Ended M es) (h' : L.Ended N more) (hperm : es.Perm more) :
    M = N := by
  refine ext_lamports_content (h.slot.trans h'.slot.symm)
    (fun k => ?_) fun k => ?_
  · rw [h.lamports, h'.lamports, (hperm.map fun e => e.shift k).sum_eq]
  · cases hp : L.pool? k with
    | some p =>
      obtain ⟨q, hq, hsheds⟩ := h.pool k p hp
      obtain ⟨r, hr, hsheds'⟩ := h'.pool k p hp
      rw [hq, hr, hsheds.unique hsheds' (hperm.filter _)]
    | none =>
      by_cases hbet : ∃ e ∈ es, k = e.seats.bet
      · obtain ⟨e, he, rfl⟩ := hbet
        rw [h.bet e he, h'.bet e (hperm.mem_iff.1 he)]
      · rw [h.content k hp fun e he hk => hbet ⟨e, he, hk⟩,
          h'.content k hp fun e he hk => hbet ⟨e, hperm.mem_iff.2 he, hk⟩]

end Ledger.Ended

/-! ## One end -/

variable {e e' : Ending} {event : Event}

/-- A step that moves what an end adds, and counts it, is that end. -/
theorem Ledger.BetMoves.ended
    (hmoves : L.BetMoves M e.seats ((e.payout + e.refund : ℕ) + e.held)
      (-(e.payout + e.refund : ℕ)) (-e.held) q Account.plain) (hL : Sound S L)
    (h : L.Holds e.seats b p) (hq : p.Sheds q [e]) : L.Ended M [e] where
  slot := hmoves.slot
  lamports k := by
    rw [hmoves.lamports, List.map_singleton, List.sum_singleton]
    rfl
  pool P p' hp' := by
    by_cases hP : e.seats.pool = P
    · subst hP
      cases h.pool.symm.trans hp'
      rw [List.filter_cons_of_pos (by simp), List.filter_nil]
      exact ⟨q, hmoves.pool, hq⟩
    · have hbet : P ≠ e.seats.bet := by
        rintro rfl
        exact absurd (Account.bet?_of_pool? hp')
          (by rw [← Ledger.bet?, h.bet]; simp)
      rw [List.filter_cons_of_neg (by simpa using hP), List.filter_nil,
        hmoves.content P (Ne.symm hP) hbet]
      exact ⟨p', hL.content_of_pool? hp', .nil p'⟩
  bet := List.forall_mem_singleton.2 hmoves.bet
  content k hk hout := by
    refine hmoves.content k ?_ (hout e List.mem_cons_self)
    rintro rfl
    exact absurd (h.pool.symm.trans hk) (by simp)

theorem Ledger.Resolves.ended {s : Signature} {t : Game.Settlement}
    (h : L.Resolves c e.seats e.bet p q s t M) (hS : Apart S) (hL : Sound S L)
    (hsigned : e.signature = some s) (hheld : L.lamports e.seats.bet = e.held) :
    L.Ended M [e] := by
  have hmoves := h.moves hS hL
  obtain ⟨hsettled, _, openBets, lockedStakes, totalPaidOut, hopen, hlocked,
    hpaid, rfl⟩ := Pool.after_settle_eq_ok_iff.1 h.counted
  have hpayout : e.payout = t.payout.toNat := by
    rw [Ending.payout, hsigned]
    simp only [(Game.settle_eq_ok_iff.1 hsettled).2, Except.toOption,
      Option.map_some, Option.getD_some]
  have hrefund : e.refund = 0 := by rw [Ending.refund, hsigned]
  have hsum : t.payout.toNat = e.payout + e.refund := by
    rw [hpayout, hrefund, Nat.add_zero]
  rw [hheld, hsum] at hmoves
  exact hmoves.ended hL h.holds
    ⟨hopen, by simpa using hlocked, by simpa [hpayout] using hpaid,
      by simp [hrefund], rfl⟩

theorem Ledger.Refunds.ended (h : L.Refunds c e.seats e.bet p q M)
    (hS : Apart S) (hL : Sound S L) (hunsigned : e.signature = none)
    (hheld : L.lamports e.seats.bet = e.held) :
    L.Ended M [e] := by
  have hmoves := h.moves hS hL
  obtain ⟨_, _, openBets, lockedStakes, totalRefunded, hopen, hlocked,
    hrefunded, rfl⟩ := Pool.after_refund_eq_ok_iff.1 h.counted
  have hpayout : e.payout = 0 := by rw [Ending.payout, hunsigned]
  have hrefund : e.refund = e.bet.amount.toNat := by
    rw [Ending.refund, hunsigned]
  have hsum : e.bet.amount.toNat = e.payout + e.refund := by
    rw [hpayout, hrefund, Nat.zero_add]
  rw [hheld, hsum] at hmoves
  exact hmoves.ended hL h.holds
    ⟨hopen, by simpa using hlocked, by simp [hpayout],
      by simpa [hrefund] using hrefunded, rfl⟩

namespace Ledger.Awaits

/-- An end that goes well does what was told in advance, and it was time for
it. -/
theorem ended (h : L.Awaits S c e) (hS : Apart S) (hL : Sound S L)
    (hrun : (L.run c).result = .ok (M, event)) :
    L.Ended M [e] ∧ e.Ripe L.slot := by
  obtain ⟨hlawful, ⟨p, hholds⟩, hheld, hends⟩ := h
  have hchange := change_of_run hS hL hlawful hrun
  cases hsig : e.signature with
  | some s =>
    rw [Call.Ends, hsig] at hends
    obtain ⟨hdecode, hseated, _⟩ := hends
    obtain ⟨_, _, _, _, step, _⟩ := hchange.resolves_of_seated hdecode hseated
    cases step.holds.bet.symm.trans hholds.bet
    exact ⟨step.ended hS hL hsig hheld,
      fun hnone => absurd (hsig.symm.trans hnone) (by simp)⟩
  | none =>
    rw [Call.Ends, hsig] at hends
    obtain ⟨_, _, _, step, _⟩ := hchange.refunds_of_seated hends.1 hends.2
    cases step.holds.bet.symm.trans hholds.bet
    exact ⟨step.ended hS hL hsig hheld, fun _ =>
      (Pool.after_refund_eq_ok_iff.1 step.counted).1⟩

/-- The end of another bet leaves this one as it is awaited. -/
theorem carry (h : L.Awaits S c e) (hS : Apart S) (hL : Sound S L) {c' : Call}
    (h' : L.Awaits S c' e') (hne : e.seats.bet ≠ e'.seats.bet)
    (hM : L.Ended M [e']) :
    M.Awaits S c e := by
  obtain ⟨p, hholds⟩ := h.holds
  obtain ⟨p', hholds'⟩ := h'.holds
  have hx := hholds.stand hL
  have hx' := hholds'.stand hL
  have hbet : M.content e.seats.bet = L.content e.seats.bet :=
    hM.content _ (Account.pool?_of_bet? hholds.bet)
      (List.forall_mem_singleton.2 hne)
  obtain ⟨q, hq, hsheds⟩ := hM.pool _ p hholds.pool
  refine ⟨h.lawful,
    ⟨q, ?_, pool?_of_content hq, hholds.player, hholds.betPool, ?_, ?_⟩, ?_,
    h.ends⟩
  · rw [bet?_of_content_eq hbet]
    exact hholds.bet
  · rw [hsheds.rest]
    exact hholds.house
  · rw [hsheds.rest]
    exact hholds.vault
  · rw [hM.lamports, List.map_singleton, List.sum_singleton, Ending.shift,
      Seats.shift_of_ne (hx.bet.ne_of_not_derived hx'.player).symm
        (hS.ne hx.bet hx'.vault (by simp)) hne, Int.add_zero]
    exact h.held

/-- Where nothing is won, an end whose time has come goes well. -/
theorem succeeds (h : L.Awaits S c e) (hS : Apart S) (hL : Sound S L)
    (htotal : L.total < UInt64.size) (hlost : e.payout = 0)
    (hripe : e.Ripe L.slot) :
    ∃ r, (L.run c).result = .ok r := by
  obtain ⟨_, ⟨p, hholds⟩, _, hends⟩ := h
  cases hsig : e.signature with
  | some s =>
    rw [Call.Ends, hsig] at hends
    obtain ⟨hdecode, hseated, hvouched⟩ := hends
    obtain ⟨paid, hpaid⟩ := hholds.payout_ok hL (Game.outcome s)
    have hzero : paid = 0 := by
      rw [Ending.payout, hsig] at hlost
      simp only [hpaid, Except.toOption, Option.map_some,
        Option.getD_some] at hlost
      exact UInt64.toNat_inj.1 hlost
    obtain ⟨q, hq⟩ := (hholds.settle_result hL hpaid).1 (.inl hzero)
    exact (hL.settlement_result hS htotal hholds hseated hdecode
      hvouched).1 _ q hq
  | none =>
    rw [Call.Ends, hsig] at hends
    exact (hL.refund_result hS htotal hholds hends.2 hends.1).1
      (Game.refundable_eq_ok_iff.1 (hripe hsig))

end Ledger.Awaits

/-! ## Many ends -/

section

variable {calls : List Call} {fate : Call → Ending} {events : List Event}

theorem Ledger.moves?_call_cons_iff {all : List Event} :
    L.moves? ((c :: calls).map .call) = some (N, all) ↔ ∃ M event more,
      (L.run c).result = .ok (M, event)
        ∧ M.moves? (calls.map .call) = some (N, more)
        ∧ all = event :: more := by
  rw [List.map_cons, moves?_cons_eq_some_iff]
  constructor
  · intro h
    obtain ⟨M, events, more, hmove, hrest, rfl⟩ := h
    obtain ⟨event, hrun, rfl⟩ := move?_call_eq_some_iff.1 hmove
    exact ⟨M, event, more, hrun, hrest, rfl⟩
  · intro h
    obtain ⟨M, event, more, hrun, hrest, rfl⟩ := h
    exact ⟨M, [event], more, move?_call_eq_some_iff.2 ⟨event, hrun, rfl⟩, hrest,
      rfl⟩

/-- After one end the others are still awaited, in a ledger that is as sound as
before and in which no time has passed. -/
theorem Ledger.awaits_rest (hS : Apart S) (hL : Sound S L)
    (hcalls : ∀ c' ∈ c :: calls, L.Awaits S c' (fate c'))
    (hdistinct : ((c :: calls).map fun c' => (fate c').seats.bet).Nodup)
    (hrun : (L.run c).result = .ok (M, event)) :
    Sound S M ∧ M.total = L.total ∧ L.Ended M [fate c] ∧ (fate c).Ripe L.slot
      ∧ (∀ c' ∈ calls, M.Awaits S c' (fate c'))
      ∧ (calls.map fun c' => (fate c').seats.bet).Nodup := by
  have hfirst := hcalls c List.mem_cons_self
  have hchange := change_of_run hS hL hfirst.lawful hrun
  obtain ⟨hended, hripe⟩ := hfirst.ended hS hL hrun
  obtain ⟨hout, hrest⟩ := List.nodup_cons.1 hdistinct
  refine ⟨hchange.sound hS hL, hchange.total hS hL, hended, hripe,
    fun c' hc' => ?_, hrest⟩
  refine (hcalls c' (List.mem_cons_of_mem _ hc')).carry hS hL hfirst ?_ hended
  intro hbet
  exact hout (List.mem_map.2 ⟨c', hc', hbet⟩)

/-- If all goes well, the ends have come together to what was told in advance,
and it was time for each of them. -/
theorem Ledger.ended_of_moves (hS : Apart S) (hL : Sound S L)
    (hcalls : ∀ c ∈ calls, L.Awaits S c (fate c))
    (hdistinct : (calls.map fun c => (fate c).seats.bet).Nodup)
    (hgoes : L.moves? (calls.map .call) = some (N, events)) :
    L.Ended N (calls.map fate) ∧ ∀ c ∈ calls, (fate c).Ripe L.slot := by
  -- On the calls, with the ledger free: what is awaited is carried from one to
  -- the next.
  induction calls generalizing L events with
  | nil =>
    simp only [List.map_nil, moves?, Option.some.injEq, Prod.mk.injEq] at hgoes
    obtain ⟨rfl, _⟩ := hgoes
    exact ⟨.nil hL, fun c hc => by cases hc⟩
  | cons c rest ih =>
    obtain ⟨M, event, more, hrun, hmore, _⟩ := moves?_call_cons_iff.1 hgoes
    obtain ⟨hM, _, hended, hripe, hrest, hnodup⟩ :=
      awaits_rest hS hL hcalls hdistinct hrun
    obtain ⟨hends, hripes⟩ := ih hM hrest hnodup hmore
    rw [hended.slot] at hripes
    exact ⟨hended.trans hends, List.forall_mem_cons.2 ⟨hripe, hripes⟩⟩

/-- Where nothing is won and the time has come for all, all goes well. -/
theorem Ledger.moves_of_ripe (hS : Apart S) (hL : Sound S L)
    (htotal : L.total < UInt64.size)
    (hcalls : ∀ c ∈ calls, L.Awaits S c (fate c))
    (hdistinct : (calls.map fun c => (fate c).seats.bet).Nodup)
    (hlost : ∀ c ∈ calls, (fate c).payout = 0)
    (hripe : ∀ c ∈ calls, (fate c).Ripe L.slot) :
    ∃ r, L.moves? (calls.map .call) = some r := by
  induction calls generalizing L with
  | nil => exact ⟨(L, []), rfl⟩
  | cons c rest ih =>
    have hfirst := List.mem_cons_self (a := c) (l := rest)
    obtain ⟨⟨M, event⟩, hrun⟩ :=
      (hcalls c hfirst).succeeds hS hL htotal (hlost c hfirst) (hripe c hfirst)
    obtain ⟨hM, hsame, hended, _, hrest, hnodup⟩ :=
      awaits_rest hS hL hcalls hdistinct hrun
    obtain ⟨⟨N, more⟩, hgoes⟩ := ih hM (hsame ▸ htotal) hrest hnodup
      (fun c' hc' => hlost c' (List.mem_cons_of_mem _ hc'))
      fun c' hc' => by
        rw [hended.slot]
        exact hripe c' (List.mem_cons_of_mem _ hc')
    exact ⟨(N, event :: more), moves?_call_cons_iff.2 ⟨M, event, more, hrun,
      hgoes, rfl⟩⟩

/-- In every reachable ledger, some different bets are ended at one time. In
whatever orders all ends go well, they leave the same ledger; and if nobody wins
anything and all go well in one order, then all go well in every order. -/
theorem Ledger.Reachable.endings_commute (hS : Apart S) (hL : L.Reachable S)
    (htotal : L.total < UInt64.size)
    (hcalls : ∀ c ∈ calls, L.Awaits S c (fate c))
    (hdistinct : (calls.map fun c => (fate c).seats.bet).Nodup) :
    (∀ (first second : List Call) (M N : Ledger) (events more : List Event),
        first.Perm calls → second.Perm calls →
        L.moves? (first.map .call) = some (M, events) →
        L.moves? (second.map .call) = some (N, more) → M = N)
      ∧ ((∀ c ∈ calls, (fate c).payout = 0) → ∀ first second : List Call,
        first.Perm calls → second.Perm calls →
        (∃ r, L.moves? (first.map .call) = some r) →
          ∃ r, L.moves? (second.map .call) = some r) := by
  have hsound := hL.sound hS
  have hordered : ∀ {order : List Call}, order.Perm calls →
      (∀ c ∈ order, L.Awaits S c (fate c))
        ∧ (order.map fun c => (fate c).seats.bet).Nodup := by
    intro order hperm
    exact ⟨fun c hc => hcalls c (hperm.mem_iff.1 hc),
      (hperm.map _).nodup_iff.2 hdistinct⟩
  refine ⟨fun first second M N events more hfirst hsecond hM hN => ?_,
    fun hlost first second hfirst hsecond hgoes => ?_⟩
  · obtain ⟨hcalls₁, hdistinct₁⟩ := hordered hfirst
    obtain ⟨hcalls₂, hdistinct₂⟩ := hordered hsecond
    obtain ⟨hended₁, _⟩ := ended_of_moves hS hsound hcalls₁ hdistinct₁ hM
    obtain ⟨hended₂, _⟩ := ended_of_moves hS hsound hcalls₂ hdistinct₂ hN
    exact hended₁.unique hended₂ ((hfirst.trans hsecond.symm).map fate)
  · obtain ⟨⟨M, events⟩, hM⟩ := hgoes
    obtain ⟨hcalls₁, hdistinct₁⟩ := hordered hfirst
    obtain ⟨hcalls₂, hdistinct₂⟩ := hordered hsecond
    obtain ⟨_, hripe⟩ := ended_of_moves hS hsound hcalls₁ hdistinct₁ hM
    refine moves_of_ripe hS hsound htotal hcalls₂ hdistinct₂
      (fun c hc => ?_) fun c hc => ?_
    · exact hlost c (hsecond.mem_iff.1 hc)
    · exact hripe c ((hsecond.trans hfirst.symm).mem_iff.1 hc)

end

namespace Sample

/-- Both bets against the pool are open, and their time is over. -/
def crowded : Ledger := (ledger.after besides).atSlot 1005

/-- The house settles the second bet with a signature that loses. -/
def losingSecond : Call where
  program := Key.game
  accounts := Call.accountsFor .resolveBet
    ({ seats with bet := second } : Seats).key
  data := (Request.resolveBet (Block.replicate 64 1)).encode
  before := [Ed25519.Check.instruction ⟨house,
    Bet.message ⟨player, pool, 1, 5, 30, 2000000, 255⟩, Block.replicate 64 1⟩]
  index := 1

/-- The first bet is refunded and the second settled. -/
def ending (c : Call) : Ending :=
  if c.key? 4 = some bet then
    ⟨seats, ⟨player, pool, 0, 5, 50, 1000000, 255⟩, none, 1628640⟩
  else
    ⟨{ seats with bet := second }, ⟨player, pool, 1, 5, 30, 2000000, 255⟩,
      some (Block.replicate 64 1), 1628640⟩

theorem crowded_reachable : crowded.Reachable (Known moreAddresses) := by
  have hlawful : ∀ m ∈ meanwhile, m.Lawful (Known moreAddresses) := fun m hm =>
    (meanwhile_allowed m hm).1
  have hbetting : betting.Lawful (Known moreAddresses) :=
    Call.lawful_known find?_moreAddresses (by decide +kernel)
      (by decide +kernel)
  have hslot : (ledger.after besides).slot ≤ 1005 := by
    rw [Ledger.slot_after, ledger, Ledger.slot_after, Ledger.slot_after]
    decide
  exact ((opened_reachable.step (a := .call betting) hbetting).step
    (a := .call besides) (hlawful (.call besides)
      (by simp [meanwhile]))).step (a := .clock 1005) hslot

theorem crowded_stored : crowded.pool? pool
      = some ⟨house, 255, vault, 255, 5, 100000000, 2, 3000000, 3000000, 0, 0,
        1⟩
    ∧ crowded.bet? bet = some ⟨player, pool, 0, 5, 50, 1000000, 255⟩
    ∧ crowded.bet? second = some ⟨player, pool, 1, 5, 30, 2000000, 255⟩
    ∧ crowded.lamports bet = 1628640 ∧ crowded.lamports second = 1628640
    ∧ crowded.total = 2000000001
    ∧ (crowded.moves?
      [.call (call .refundBet), .call losingSecond]).isSome := by
  decide +kernel

theorem crowded_awaits :
    ∀ c ∈ [call .refundBet, losingSecond],
    crowded.Awaits (Known moreAddresses) c (ending c) := by
  obtain ⟨hpool, hbet, hsecond, hheld, hheldSecond, _⟩ := crowded_stored
  have hfirst : ending (call .refundBet)
      = ⟨seats, ⟨player, pool, 0, 5, 50, 1000000, 255⟩, none, 1628640⟩ :=
    if_pos rfl
  have hother : ending losingSecond
      = ⟨{ seats with bet := second }, ⟨player, pool, 1, 5, 30, 2000000, 255⟩,
        some (Block.replicate 64 1), 1628640⟩ :=
    if_neg (by decide)
  refine List.forall_mem_cons.2 ⟨?_, List.forall_mem_singleton.2 ?_⟩
  · rw [hfirst]
    exact ⟨Call.lawful_known find?_moreAddresses (by decide +kernel)
      (by decide +kernel), ⟨_, hbet, hpool, rfl, rfl, rfl, rfl⟩, hheld,
      Request.decode_encode _, Call.seated_of_accounts [] rfl rfl⟩
  · rw [hother]
    exact ⟨Call.lawful_known find?_moreAddresses (by decide +kernel)
      (by decide +kernel), ⟨_, hsecond, hpool, rfl, rfl, rfl, rfl⟩, hheldSecond,
      Request.decode_encode _, Call.seated_of_accounts [] rfl rfl,
      Ed25519.vouchPreceding_eq_ok_iff.2 ⟨by decide, _, rfl,
        Ed25519.ofInstruction?_eq_some_iff.1 (by decide +kernel)⟩⟩

end Sample

/-- A refund and a lost bet, in both orders. -/
theorem endings_commute_two_bets : ∃ M events more,
    Sample.crowded.moves?
      ([Sample.call .refundBet, Sample.losingSecond].map .call)
        = some (M, events)
      ∧ Sample.crowded.moves?
        ([Sample.losingSecond, Sample.call .refundBet].map .call)
        = some (M, more) := by
  obtain ⟨_, _, _, _, _, htotal, hgoes⟩ := Sample.crowded_stored
  have hfits : Sample.crowded.total < UInt64.size := by
    rw [htotal]
    decide
  have hlost : ∀ c ∈ [Sample.call .refundBet, Sample.losingSecond],
      (Sample.ending c).payout = 0 := by
    decide +kernel
  obtain ⟨⟨M, events⟩, hM⟩ := Option.isSome_iff_exists.1 hgoes
  obtain ⟨hsame, hgo⟩ := Ledger.Reachable.endings_commute Sample.more_apart
    Sample.crowded_reachable hfits Sample.crowded_awaits (by decide)
  obtain ⟨⟨N, more⟩, hN⟩ := hgo hlost _ _ (.refl _) (.swap _ _ _) ⟨_, hM⟩
  cases hsame _ _ _ _ _ _ (.refl _) (.swap _ _ _) hM hN
  exact ⟨M, events, more, hM, hN⟩

end HouseDice
