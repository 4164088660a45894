import HouseDice.Proofs.Movement
import HouseDice.Proofs.Outflow
import Mathlib.Algebra.BigOperators.Group.List.Basic
import Mathlib.Algebra.Ring.Int.Defs

/-!
# Who pays whom

Lamports move in three ways inside one call: when an account is opened, when the
system program is asked for a transfer, and when a bet's account is closed into
its player's. Seen from outside they are transfers all the same, two for every
request, and the amounts can be told before the call from the request, from what
the new accounts lack of their rent, and from the bet that is open.

`Deal` is that foresight. A call that goes well does what its deal says: it adds
to every account what the transfers come to, also where one key sits in several
places, it writes the program's records, empties the account of a bet that it
closes, and does nothing else to any account.
-/

namespace HouseDice

open Address

variable {S : Set Purpose} {L M : Ledger} {c : Call} {x : Seats} {b : Bet}
  {p q : Pool}

/-! ## Transfers -/

/-- So many lamports go from one account to another. -/
structure Transfer where
  payer : Key
  payee : Key
  amount : ℕ

/-- What a transfer adds under a key. -/
def Transfer.net (t : Transfer) (k : Key) : ℤ :=
  (if k = t.payee then (t.amount : ℤ) else 0)
    - if k = t.payer then (t.amount : ℤ) else 0

/-- What a call is going to do to the accounts. -/
structure Deal where
  transfers : List Transfer
  /-- The accounts of the program that get new data. -/
  written : List (Key × Bytes)
  /-- The accounts that are emptied. -/
  closed : List Key

namespace Deal

/-- What a deal adds under a key. -/
def net (d : Deal) (k : Key) : ℤ := (d.transfers.map fun t => t.net k).sum

/-- The keys that a deal is about. -/
def keys (d : Deal) : List Key :=
  (d.transfers.flatMap fun t => [t.payer, t.payee]) ++ d.written.map Prod.fst
    ++ d.closed

/-- Nothing is added where nobody pays or is paid. -/
theorem net_of_not_mem {d : Deal} {k : Key} (hk : k ∉ d.keys) :
    d.net k = 0 := by
  refine List.sum_eq_zero fun n hn => ?_
  obtain ⟨t, ht, rfl⟩ := List.mem_map.1 hn
  have hout : k ∉ [t.payer, t.payee] := fun hmem =>
    hk (List.mem_append_left _
      (List.mem_append_left _ (List.mem_flatMap.2 ⟨t, ht, hmem⟩)))
  simp only [List.mem_cons, List.not_mem_nil, or_false, not_or] at hout
  rw [Transfer.net, if_neg hout.2, if_neg hout.1, Int.sub_zero]

/-- The ledger `M` is `L` after the deal. -/
structure Done (d : Deal) (L M : Ledger) : Prop where
  slot : M.slot = L.slot
  lamports : ∀ k, M.lamports k = L.lamports k + d.net k
  written : ∀ w ∈ d.written, M.content w.1 = (Key.game, w.2)
  closed : ∀ k ∈ d.closed, M.get k = .blank
  content : ∀ k, k ∉ d.written.map Prod.fst → k ∉ d.closed →
    M.content k = L.content k

/-- A deal leaves every account alone that it does not name. -/
theorem Done.get {d : Deal} (h : d.Done L M) {k : Key} (hk : k ∉ d.keys) :
    M.get k = L.get k := by
  have hlamports := h.lamports k
  rw [net_of_not_mem hk, Int.add_zero, Ledger.lamports,
    Ledger.lamports] at hlamports
  simp only [keys, List.mem_append, not_or] at hk
  exact Account.ext_content (UInt64.toNat_inj.1 (by omega))
    (h.content k hk.1.2 hk.2)

end Deal

/-! ## What is due -/

/-- What is due if the call goes well. -/
inductive Ledger.Due (L : Ledger) (c : Call) : Deal → Prop where
  /-- A house pays for a pool and for a vault, and puts the first funds into the
  vault. -/
  | founds {house pool vault : Key} {bump vaultBump : UInt8} {amount : UInt64}
      (decoded : Request.decode c.data = .ok (.initializePool amount))
      (named : c.key? 0 = some pool ∧ c.key? 1 = some vault
        ∧ c.key? 2 = some house)
      (find : find? (.pool house) = some (pool, bump)
        ∧ find? (.vault house) = some (vault, vaultBump)) :
      Due L c {
        transfers := [⟨house, pool, 1809600 - (L.get pool).lamports.toNat⟩,
          ⟨house, vault, 890880 - (L.get vault).lamports.toNat + amount.toNat⟩]
        written := [(pool, Pool.record.encode ⟨house, bump, vault, vaultBump,
          L.slot, amount, 0, 0, 0, 0, 0, Pool.initialVersion⟩)]
        closed := [] }
  /-- A player pays the stake to the vault, and for the account of the bet. -/
  | stakes {x : Seats} {p : Pool} {seed : Seed} {amount : UInt64}
      {roll bump : UInt8} {openBets lockedStakes totalWagered : UInt64}
      (decoded : Request.decode c.data = .ok (.placeBet seed amount roll))
      (seated : c.Seated .placeBet x) (pool : L.pool? x.pool = some p)
      (linked : p.house = x.house ∧ p.vault = x.vault)
      (find : find? (.bet x.vault seed) = some (x.bet, bump))
      (counted : openBets.toNat = p.openBets.toNat + 1
        ∧ lockedStakes.toNat = p.lockedStakes.toNat + amount.toNat
        ∧ totalWagered.toNat = p.totalWagered.toNat + amount.toNat) :
      Due L c {
        transfers := [⟨x.player, x.vault, amount.toNat⟩,
          ⟨x.player, x.bet, 1628640 - (L.get x.bet).lamports.toNat⟩]
        written := [(x.pool,
          Pool.record.encode { p with openBets, lockedStakes, totalWagered }),
          (x.bet, Bet.record.encode ⟨x.player, x.pool, seed, L.slot, roll,
            amount, bump⟩)]
        closed := [] }
  /-- The vault pays what the signature makes of an open bet, whose account goes
  to its player. -/
  | resolves {x : Seats} {b : Bet} {p : Pool} {s : Signature} {paid : UInt64}
      {openBets lockedStakes totalPaidOut : UInt64}
      (decoded : Request.decode c.data = .ok (.resolveBet s))
      (seated : c.Seated .resolveBet x) (holds : L.Holds x b p)
      (price : Game.payout b.amount b.roll (Game.outcome s) = .ok paid)
      (counted : p.openBets.toNat = openBets.toNat + 1
        ∧ p.lockedStakes.toNat = lockedStakes.toNat + b.amount.toNat
        ∧ totalPaidOut.toNat = p.totalPaidOut.toNat + paid.toNat) :
      Due L c {
        transfers := [⟨x.vault, b.player, paid.toNat⟩,
          ⟨x.bet, b.player, (L.get x.bet).lamports.toNat⟩]
        written := [(x.pool,
          Pool.record.encode { p with openBets, lockedStakes, totalPaidOut })]
        closed := [x.bet] }
  /-- The vault pays the stake of an open bet back, whose account goes to its
  player. -/
  | refunds {x : Seats} {b : Bet} {p : Pool}
      {openBets lockedStakes totalRefunded : UInt64}
      (decoded : Request.decode c.data = .ok .refundBet)
      (seated : c.Seated .refundBet x) (holds : L.Holds x b p)
      (counted : p.openBets.toNat = openBets.toNat + 1
        ∧ p.lockedStakes.toNat = lockedStakes.toNat + b.amount.toNat
        ∧ totalRefunded.toNat = p.totalRefunded.toNat + b.amount.toNat) :
      Due L c {
        transfers := [⟨x.vault, b.player, b.amount.toNat⟩,
          ⟨x.bet, b.player, (L.get x.bet).lamports.toNat⟩]
        written := [(x.pool,
          Pool.record.encode { p with openBets, lockedStakes, totalRefunded })]
        closed := [x.bet] }

/-! ## What is done -/

theorem Ledger.toNat_lacks (L : Ledger) (k : Key) (space : Nat) :
    L.lacks k space
      = ((Ledger.rentMinimum space).toNat - (L.get k).lamports.toNat : ℕ) := by
  rw [lacks, lamports]
  omega

/-- Who stakes pays the vault and the new account. -/
theorem Seats.shift_staking {seed : Seed} (hx : x.Stand S seed) (hS : Apart S)
    (stake rent : ℕ) (k : Key) : x.shift (-(stake + rent)) stake rent k
      = Transfer.net ⟨x.player, x.vault, stake⟩ k
        + Transfer.net ⟨x.player, x.bet, rent⟩ k := by
  have hpv := hx.player_ne_vault
  have hpb := hx.player_ne_bet
  have hvb := hx.vault_ne_bet hS
  simp only [shift, Transfer.net]
  grind

/-- Whose bet is closed is paid by the vault and by the account of the bet. -/
theorem Seats.shift_closing {seed : Seed} (hx : x.Stand S seed) (hS : Apart S)
    (paid held : ℕ) (k : Key) : x.shift (paid + held) (-paid) (-held) k
      = Transfer.net ⟨x.vault, x.player, paid⟩ k
        + Transfer.net ⟨x.bet, x.player, held⟩ k := by
  have hpv := hx.player_ne_vault
  have hpb := hx.player_ne_bet
  have hvb := hx.vault_ne_bet hS
  simp only [shift, Transfer.net]
  grind

theorem Ledger.Founds.due {pool : Key} {amount : UInt64}
    (h : L.Founds S c pool p amount M) (hS : Apart S)
    (hdecode : Request.decode c.data = .ok (.initializePool amount)) :
    ∃ d, L.Due c d ∧ d.Done L M := by
  obtain ⟨hslot, _⟩ := h.gets hS
  obtain ⟨_, hp⟩ := Pool.create_eq_ok_iff.1 h.created
  have hwritten := h.content_pool hS
  rw [hp] at hwritten
  refine ⟨_, .founds hdecode ⟨h.named.1, h.named.2.1, h.named.2.2.1⟩
    ⟨h.stands.find, h.stands.vaultFind⟩, hslot, fun k => ?_, ?_,
    by simp, fun k hk _ => ?_⟩
  · have hnodup := h.nodup hS
    simp only [List.nodup_cons, List.mem_cons, List.not_mem_nil, or_false,
      not_or] at hnodup
    rw [h.lamports hS, toNat_lacks, toNat_lacks, toNat_rentMinimum_pool,
      show (rentMinimum 0).toNat = 890880 by decide]
    simp only [foundShift, Deal.net, List.map_cons, List.map_nil, List.sum_cons,
      List.sum_nil, Transfer.net]
    grind
  · exact List.forall_mem_singleton.2 hwritten
  · exact h.content hS (by simpa using hk)

theorem Ledger.Stakes.due {seed : Seed} {amount : UInt64} {roll bump : UInt8}
    (h : L.Stakes S c x seed amount roll bump p q M) (hS : Apart S)
    (hdecode : Request.decode c.data = .ok (.placeBet seed amount roll)) :
    ∃ d, L.Due c d ∧ d.Done L M := by
  have hmoves := h.moves hS
  obtain ⟨_, _, openBets, lockedStakes, totalWagered, hopen, hlocked, hwagered,
    rfl⟩ := Pool.after_accept_eq_ok_iff.1 h.counted
  refine ⟨_, .stakes hdecode h.seated h.pool ⟨h.house, h.vault⟩ h.find ⟨hopen,
    hlocked, hwagered⟩, hmoves.slot, fun k => ?_, ?_, by simp, fun k hk _ => ?_⟩
  · rw [hmoves.lamports, toNat_lacks, toNat_rentMinimum_bet,
      Seats.shift_staking h.stand hS]
    simp only [Deal.net, List.map_cons, List.map_nil, List.sum_cons,
      List.sum_nil, Int.add_zero]
  · exact List.forall_mem_cons.2
      ⟨hmoves.pool, List.forall_mem_singleton.2 hmoves.bet⟩
  · simp only [List.map_cons, List.map_nil, List.mem_cons, List.not_mem_nil,
      or_false, not_or] at hk
    exact hmoves.content k hk.1 hk.2

/-- A step that closes a bet does what is due for it, whatever the vault
pays. -/
theorem Ledger.BetMoves.closed {paid : UInt64}
    (hmoves : L.BetMoves M x (paid.toNat + L.lamports x.bet) (-paid.toNat)
      (-L.lamports x.bet) q
      Account.plain) (hS : Apart S) (hL : Sound S L) (h : L.Holds x b p) :
    Deal.Done {
      transfers := [⟨x.vault, b.player, paid.toNat⟩,
        ⟨x.bet, b.player, (L.get x.bet).lamports.toNat⟩]
      written := [(x.pool, Pool.record.encode q)]
      closed := [x.bet] } L M where
  slot := hmoves.slot
  lamports k := by
    rw [hmoves.lamports, Ledger.lamports, Ledger.lamports,
      Seats.shift_closing (h.stand hL) hS, ← h.player]
    simp only [Deal.net, List.map_cons, List.map_nil, List.sum_cons,
      List.sum_nil, Int.add_zero]
  written := List.forall_mem_singleton.2 hmoves.pool
  closed := by
    refine List.forall_mem_singleton.2 (Account.ext_content ?_ hmoves.bet)
    have hx := h.stand hL
    have hleft := hmoves.lamports x.bet
    rw [Seats.shift, if_neg hx.player_ne_bet.symm,
      if_neg (hx.vault_ne_bet hS).symm, if_pos rfl, Ledger.lamports,
      Ledger.lamports] at hleft
    exact UInt64.toNat_inj.1 (by rw [Account.blank, UInt64.toNat_zero]; omega)
  content k hk hout :=
    hmoves.content k (by simpa using hk) (by simpa using hout)

theorem Ledger.Change.due (hS : Apart S) (hL : Sound S L) {event : Event}
    (h : L.Change S c M event) : ∃ d, L.Due c d ∧ d.Done L M := by
  cases h with
  | founds decoded step => exact step.due hS decoded
  | stakes decoded step => exact step.due hS decoded
  | resolves decoded step =>
    have hdone := (step.moves hS hL).closed hS hL step.holds
    obtain ⟨hsettled, _, openBets, lockedStakes, totalPaidOut, hopen, hlocked,
      hpaid, rfl⟩ := Pool.after_settle_eq_ok_iff.1 step.counted
    exact ⟨_, .resolves decoded step.seated step.holds
      (Game.settle_eq_ok_iff.1 hsettled).2 ⟨hopen, hlocked, hpaid⟩, hdone⟩
  | refunds decoded step =>
    have hdone := (step.moves hS hL).closed hS hL step.holds
    obtain ⟨_, _, openBets, lockedStakes, totalRefunded, hopen, hlocked,
      hrefunded, rfl⟩ := Pool.after_refund_eq_ok_iff.1 step.counted
    exact ⟨_, .refunds decoded step.seated step.holds ⟨hopen, hlocked,
      hrefunded⟩, hdone⟩

/-- In every reachable ledger, a call that goes well does what is due: the
transfers of its request, the new data of the program's accounts, and an empty
account where a bet was closed. Every account that is not named there is as it
was, and no lamport is made or lost. -/
theorem Ledger.Reachable.due_done (hS : Apart S) (hL : L.Reachable S)
    (hc : c.Lawful S) {event : Event}
    (hrun : (L.run c).result = .ok (M, event)) :
    M.total = L.total
      ∧ ∃ d, L.Due c d ∧ d.Done L M ∧ ∀ k ∉ d.keys, M.get k = L.get k := by
  have hsound := hL.sound hS
  have hchange := change_of_run hS hsound hc hrun
  obtain ⟨d, hdue, hdone⟩ := hchange.due hS hsound
  exact ⟨hchange.total hS hsound, d, hdue, hdone, fun k hk => hdone.get hk⟩

/-- The settlement of the first run's bet moves what is due. -/
theorem due_done_first_run : ∃ M event d,
    (Sample.ledger.run Sample.settling).result = .ok (M, event)
      ∧ M.total = 2000000001
      ∧ Sample.ledger.Due Sample.settling d ∧ d.Done Sample.ledger M := by
  have hsome : (Sample.ledger.run Sample.settling).result.toOption.isSome := by
    decide +kernel
  obtain ⟨⟨M, event⟩, hresult⟩ := Option.isSome_iff_exists.1 hsome
  have hrun := toOption_eq_some_iff.1 hresult
  obtain ⟨htotal, d, hdue, hdone, _⟩ :=
    Ledger.Reachable.due_done Sample.apart Sample.reachable
      Sample.settling_lawful hrun
  exact ⟨M, event, d, hrun, htotal.trans Sample.stored.2.2, hdue, hdone⟩

end HouseDice
