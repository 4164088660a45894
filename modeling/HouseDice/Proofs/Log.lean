import HouseDice.Proofs.Reachable
import Mathlib.Logic.Function.Basic

/-!
# The log tells everything

Whoever reads the events of the calls that succeeded, and no account, can keep
books: a line for every pool, with its counters, and a slip for every bet, with
its terms. An event that ends a bet says neither against which pool it was nor
what was staked, so it is read against the latest slip under its address.

The books are right at all times. One call writes one event, and entering it
changes the same line and the same slip as the call has changed accounts; clocks
and gifts change neither. Only the bumps, which follow from the addresses, are
not in the log.
-/

namespace HouseDice

open Address

variable {S : Set Purpose} {L M : Ledger} {c : Call} {x : Seats} {b : Bet}
  {p q : Pool}

/-! ## Keeping books -/

namespace Book

/-- What the books say of a pool. -/
structure Line where
  house : Key
  vault : Key
  initialFunding : ℕ
  openBets : ℕ
  lockedStakes : ℕ
  totalWagered : ℕ
  totalPaidOut : ℕ
  totalRefunded : ℕ
deriving DecidableEq

/-- What the books say of a bet. -/
structure Slip where
  pool : Key
  wager : Wager
  isOpen : Bool
deriving DecidableEq

def Line.stake (amount : ℕ) (l : Line) : Line :=
  { l with
    openBets := l.openBets + 1
    lockedStakes := l.lockedStakes + amount
    totalWagered := l.totalWagered + amount }

/-- The stake of a bet that ends is not locked any more. -/
def Line.release (amount : ℕ) (l : Line) : Line :=
  { l with
    openBets := l.openBets - 1
    lockedStakes := l.lockedStakes - amount }

def Line.payOut (amount : ℕ) (l : Line) : Line :=
  { l with totalPaidOut := l.totalPaidOut + amount }

def Line.refund (amount : ℕ) (l : Line) : Line :=
  { l with totalRefunded := l.totalRefunded + amount }

end Book

/-- What can be known from the log: for each key the pool that was opened there,
and the latest bet that was placed there. -/
structure Book where
  pools : Key → Option Book.Line
  bets : Key → Option Book.Slip

namespace Book

def empty : Book := ⟨fun _ => none, fun _ => none⟩

/-- The slip under a key, as long as the bet is open. -/
def open? (book : Book) (B : Key) : Option Slip :=
  (book.bets B).filter Slip.isOpen

/-- The line of a pool is changed. -/
def amend (book : Book) (P : Key) (f : Line → Line) : Book :=
  { book with pools := Function.update book.pools P ((book.pools P).map f) }

/-- A bet ends, and the line of its pool changes by what else is known about the
end. -/
def settle (book : Book) (B : Key) (f : Line → Line) : Book :=
  match book.bets B with
  | some slip =>
    { book.amend slip.pool (f ∘ Line.release slip.wager.amount.toNat) with
      bets := Function.update book.bets B (some { slip with isOpen := false }) }
  | none => book

/-- The books after one more event. -/
def enter (book : Book) : Event → Book
  | .poolInitialized pool house vault amount =>
    { book with
      pools := Function.update book.pools pool
        (some ⟨house, vault, amount.toNat, 0, 0, 0, 0, 0⟩) }
  | .betPlaced bet player pool seed amount roll slot =>
    { book.amend pool (Line.stake amount.toNat) with
      bets := Function.update book.bets bet
        (some ⟨pool, ⟨player, seed, slot, roll, amount⟩, true⟩) }
  | .betResolved bet _ _ _ _ payout =>
    book.settle bet (Line.payOut payout.toNat)
  | .betRefunded bet _ amount _ => book.settle bet (Line.refund amount.toNat)

/-- The books that come from a log. -/
def ofLog (events : List Event) : Book := events.foldl enter empty

theorem ofLog_append_one (events : List Event) (event : Event) :
    ofLog (events ++ [event]) = (ofLog events).enter event := by
  rw [ofLog, List.foldl_append]
  rfl

end Book

/-- What a step reports: a call that goes well its event, and nothing else
anything. -/
def Ledger.reports (L : Ledger) : Action → List Event
  | .call c =>
    match (L.run c).result with
    | .ok (_, event) => [event]
    | .error _ => []
  | .clock _ | .outside _ => []

/-! ## What the books should say -/

def Pool.line (p : Pool) : Book.Line :=
  ⟨p.house, p.vault, p.initialFunding.toNat, p.openBets.toNat,
    p.lockedStakes.toNat, p.totalWagered.toNat, p.totalPaidOut.toNat,
    p.totalRefunded.toNat⟩

def Bet.slip (b : Bet) : Book.Slip := ⟨b.pool, b.wager, true⟩

/-- The books agree with the accounts. -/
structure Book.Tells (book : Book) (L : Ledger) : Prop where
  pools : book.pools = Option.map Pool.line ∘ L.pool?
  bets : book.open? = Option.map Bet.slip ∘ L.bet?

/-! ## Records that change -/

namespace Ledger.StepsTo

theorem pool?_eq (h : L.StepsTo S x p q M) (hS : Apart S) (hL : Sound S L) :
    M.pool? = Function.update L.pool? x.pool (some q) := by
  obtain ⟨purse, vault, bet, hsteps, rfl⟩ := h
  refine Function.eq_update_iff.2 ⟨hsteps.pool?_pool hS, fun k hk => ?_⟩
  exact hsteps.pool?_of_ne hS hL hk

theorem bet?_eq (h : L.StepsTo S x p q M) (hS : Apart S) (hL : Sound S L) :
    M.bet? = Function.update L.bet? x.bet (M.bet? x.bet) := by
  obtain ⟨purse, vault, bet, hsteps, rfl⟩ := h
  refine Function.eq_update_iff.2 ⟨rfl, fun k hk => ?_⟩
  exact hsteps.bet?_of_ne hS hL hk

end Ledger.StepsTo

namespace Book.Tells

variable {book : Book}

theorem bets_of_holds (h : book.Tells L) (hb : L.Holds x b p) :
    book.bets x.bet = some b.slip := by
  have hopen : book.open? x.bet = some b.slip := by
    rw [h.bets, Function.comp_apply, hb.bet, Option.map_some]
  exact (Option.filter_eq_some_iff.1 hopen).1

/-- Where the pool of a step has changed in the books as it has in its account,
the lines agree again. -/
theorem amend (h : book.Tells L) (hS : Apart S) (hL : Sound S L)
    (hp : L.pool? x.pool = some p) (hM : L.StepsTo S x p q M) {f : Line → Line}
    (hf : f p.line = q.line) :
    (book.amend x.pool f).pools = Option.map Pool.line ∘ M.pool? := by
  rw [hM.pool?_eq hS hL, Function.comp_update, Option.map_some, Book.amend,
    h.pools, Function.comp_apply, hp, Option.map_some, Option.map_some, hf]

/-- The end of a bet is entered like any end that releases its stake. -/
theorem settle (h : book.Tells L) (hS : Apart S) (hL : Sound S L)
    (hb : L.Holds x b p) (hM : L.StepsTo S x p q M)
    (hclosed : M.bet? x.bet = none) {f : Line → Line}
    (hf : f (p.line.release b.amount.toNat) = q.line) :
    (book.settle x.bet f).Tells M := by
  have hslip := h.bets_of_holds hb
  rw [Book.settle, hslip]
  refine ⟨?_, ?_⟩
  · show (book.amend b.pool (f ∘ Line.release b.amount.toNat)).pools = _
    rw [hb.betPool]
    exact h.amend hS hL hb.pool hM hf
  · show Option.filter Slip.isOpen ∘ Function.update book.bets x.bet _ = _
    rw [hM.bet?_eq hS hL, hclosed, Function.comp_update,
      Function.comp_update, ← h.bets]
    rfl

end Book.Tells

/-! ## One step -/

theorem Ledger.Founds.tells {book : Book} {pool : Key} {amount : UInt64}
    (h : L.Founds S c pool p amount M) (hS : Apart S) (hL : Sound S L)
    (hbook : book.Tells L) :
    (book.enter (.poolInitialized pool p.house p.vault amount)).Tells M where
  pools := by
    have hpools : M.pool? = Function.update L.pool? pool (some p) := by
      refine Function.eq_update_iff.2 ⟨h.pool?_pool hS, fun k hk => ?_⟩
      exact h.stored? hS hL Pool.record hk
    have hline : p.line = ⟨p.house, p.vault, amount.toNat, 0, 0, 0, 0, 0⟩ := by
      obtain ⟨_, hp⟩ := Pool.create_eq_ok_iff.1 h.created
      rw [hp]
      rfl
    rw [hpools, Function.comp_update, ← hbook.pools, Option.map_some, hline]
    rfl
  bets := by
    have hbets : M.bet? = L.bet? := funext fun k => h.bet?_eq hS hL k
    rw [hbets, ← hbook.bets]
    rfl

theorem Ledger.Stakes.tells {book : Book} {seed : Seed} {amount : UInt64}
    {roll bump : UInt8} (h : L.Stakes S c x seed amount roll bump p q M)
    (hS : Apart S) (hL : Sound S L) (hbook : book.Tells L) :
    (book.enter
      (.betPlaced x.bet x.player x.pool seed amount roll L.slot)).Tells M where
  pools := by
    refine hbook.amend hS hL h.pool h.stepsTo ?_
    obtain ⟨_, _, openBets, lockedStakes, totalWagered, hopen, hlocked,
      hwagered, rfl⟩ := Pool.after_accept_eq_ok_iff.1 h.counted
    rw [Book.Line.stake, Pool.line, Pool.line, hopen, hlocked, hwagered]
  bets := by
    rw [h.stepsTo.bet?_eq hS hL, h.bet?_bet hS,
      Function.comp_update, ← hbook.bets]
    show Option.filter Book.Slip.isOpen ∘ Function.update book.bets x.bet _ = _
    rw [Function.comp_update]
    rfl

theorem Ledger.Resolves.tells {book : Book} {s : Signature}
    {t : Game.Settlement} (h : L.Resolves c x b p q s t M) (hS : Apart S)
    (hL : Sound S L) (hbook : book.Tells L) :
    (book.enter (.betResolved x.bet x.player
      b.roll t.outcome t.won t.payout)).Tells M := by
  refine hbook.settle hS hL h.holds (h.stepsTo hL)
    (h.closes.bet?_bet hS hL h.holds (Pool.releases_of_settle h.counted)) ?_
  obtain ⟨_, _, openBets, lockedStakes, totalPaidOut, hopen, hlocked, hpaid,
    rfl⟩ := Pool.after_settle_eq_ok_iff.1 h.counted
  rw [Book.Line.payOut, Book.Line.release, Pool.line, Pool.line, hopen, hlocked,
    hpaid, Nat.add_sub_cancel, Nat.add_sub_cancel]

theorem Ledger.Refunds.tells {book : Book} (h : L.Refunds c x b p q M)
    (hS : Apart S) (hL : Sound S L) (hbook : book.Tells L) :
    (book.enter (.betRefunded x.bet x.player b.amount L.slot)).Tells M := by
  refine hbook.settle hS hL h.holds (h.stepsTo hL)
    (h.closes.bet?_bet hS hL h.holds (Pool.releases_of_refund h.counted)) ?_
  obtain ⟨_, _, openBets, lockedStakes, totalRefunded, hopen, hlocked,
    hrefunded, rfl⟩ := Pool.after_refund_eq_ok_iff.1 h.counted
  rw [Book.Line.refund, Book.Line.release, Pool.line, Pool.line, hopen, hlocked,
    hrefunded, Nat.add_sub_cancel, Nat.add_sub_cancel]

theorem Ledger.Change.tells {book : Book} {event : Event}
    (h : L.Change S c M event) (hS : Apart S) (hL : Sound S L)
    (hbook : book.Tells L) : (book.enter event).Tells M := by
  cases h with
  | founds _ step => exact step.tells hS hL hbook
  | stakes _ step => exact step.tells hS hL hbook
  | resolves _ step => exact step.tells hS hL hbook
  | refunds _ step => exact step.tells hS hL hbook

/-- Gifts change no line and no slip. -/
theorem Book.Tells.outside {book : Book} (hbook : book.Tells L)
    {accounts : Store} (h : L.accounts.Outside S accounts) :
    book.Tells { L with accounts } := by
  have hpools : Ledger.pool? { L with accounts } = L.pool? := funext fun k =>
    h.stored? Pool.record k
  have hbets : Ledger.bet? { L with accounts } = L.bet? :=
    funext fun k => h.stored? Bet.record k
  exact ⟨hpools ▸ hbook.pools, hbets ▸ hbook.bets⟩

/-- The books are right after a step if they were right before it and its events
are entered. -/
theorem Ledger.Allows.tells {events : List Event} {a : Action}
    (ha : L.Allows S a) (hS : Apart S) (hL : Sound S L)
    (hbook : (Book.ofLog events).Tells L) :
    (Book.ofLog (events ++ L.reports a)).Tells (L.act a) := by
  cases a with
  | call c =>
    rcases Ledger.result_cases hS hL ha with ⟨f, hresult, hsame⟩
      | ⟨event, hresult, hchange⟩
    · rw [Ledger.reports, hresult, List.append_nil, Ledger.act_call, hsame]
      exact hbook
    · rw [Ledger.reports, hresult, Book.ofLog_append_one, Ledger.act_call]
      exact hchange.tells hS hL hbook
  | clock slot =>
    rw [Ledger.reports, List.append_nil]
    exact ⟨hbook.pools, hbook.bets⟩
  | outside accounts =>
    rw [Ledger.reports, List.append_nil]
    exact hbook.outside ha

/-! ## The whole log -/

theorem Ledger.AllowsAll.tells (hS : Apart S) (hL : L.Untouched)
    {run : List Action} (hrun : L.AllowsAll S run) :
    (Book.ofLog (L.collect reports run)).Tells (L.play run) := by
  -- On the run from its end, because the latest event is entered last.
  refine hrun.induction
    (P := fun run => (Book.ofLog (L.collect reports run)).Tells (L.play run))
    ⟨funext fun P => ?_, funext fun B => ?_⟩ fun run a hbefore ha hbook => ?_
  · have hnone : L.pool? P = none := Account.stored?_of_owner_ne (hL P)
    show none = Option.map Pool.line (L.pool? P)
    rw [hnone, Option.map_none]
  · have hnone : L.bet? B = none := Account.stored?_of_owner_ne (hL B)
    show none = Option.map Bet.slip (L.bet? B)
    rw [hnone, Option.map_none]
  · rw [collect_append_one, play_append]
    exact ha.tells hS (hbefore.sound hS hL) hbook

theorem Ledger.reports_call (L : Ledger) (c : Call) :
    (∃ M event, (L.run c).result = .ok (M, event)
      ∧ L.reports (.call c) = [event])
      ∨ ∃ f, (L.run c).result = .error f ∧ L.reports (.call c) = [] := by
  rw [reports]
  cases (L.run c).result with
  | ok r => exact .inl ⟨r.1, r.2, rfl, rfl⟩
  | error f => exact .inr ⟨f, rfl, rfl⟩

/-- In every run from a ledger that the program had not touched, each call that
goes well reports one event and nothing else is reported, and the books that
come from these events, in their order, have the line of every pool and the slip
of every open bet, and no others. -/
theorem Ledger.Untouched.log_complete (hS : Apart S) (hL : L.Untouched)
    {run : List Action} (hrun : L.AllowsAll S run) :
    (∀ before c after, run = before ++ .call c :: after →
        (∃ M event, ((L.play before).run c).result = .ok (M, event)
            ∧ (L.play before).reports (.call c) = [event])
          ∨ ∃ f, ((L.play before).run c).result = .error f
            ∧ (L.play before).reports (.call c) = [])
      ∧ (∀ P, (Book.ofLog (L.collect reports run)).pools P
        = ((L.play run).pool? P).map Pool.line)
      ∧ ∀ B, (Book.ofLog (L.collect reports run)).open? B
        = ((L.play run).bet? B).map Bet.slip := by
  have hbook := hrun.tells hS hL
  exact ⟨fun before c _ _ => (L.play before).reports_call c,
    congrFun hbook.pools, congrFun hbook.bets⟩

/-- The log of the first run is enough to know its pool and its bet. -/
theorem log_complete_first_run :
    (Book.ofLog
          (Sample.start.collect Ledger.reports Sample.placed)).pools Sample.pool
        = some
          ⟨Sample.house, Sample.vault, 100000000, 1, 1000000, 1000000, 0, 0⟩
      ∧ (Book.ofLog
          (Sample.start.collect Ledger.reports Sample.placed)).open? Sample.bet
        = some ⟨Sample.pool, ⟨Sample.player, 0, 5, 50, 1000000⟩, true⟩ := by
  obtain ⟨_, hpools, hbets⟩ :=
    Ledger.Untouched.log_complete Sample.apart Sample.start_untouched
      Sample.placed_allowed
  obtain ⟨hpool, hbet, _⟩ := Sample.stored
  rw [hpools, hbets, Sample.play_placed, hpool, hbet]
  exact ⟨rfl, rfl⟩

end HouseDice
