import HouseDice.Proofs.Call.InitializePool
import HouseDice.Proofs.Call.PlaceBet
import HouseDice.Proofs.Call.RefundBet
import HouseDice.Proofs.Call.ResolveBet

/-!
# Every reachable ledger is sound

A call that goes well is one of four changes, and `Change` says in full what
each has found and what it leaves. Nothing that is proved below about calls
looks at their code again. Each of the four keeps a ledger sound, the clock and
the gifts of others do not touch what soundness is about, and so it holds after
every run.
-/

namespace HouseDice

open Address

variable {S : Set Purpose} {L M : Ledger} {c : Call}

/-- What a call that goes well makes of a sound ledger, and what it reports. -/
inductive Ledger.Change (S : Set Purpose) (L : Ledger) (c : Call) :
    Ledger → Event → Prop where
  | founds {pool : Key} {p : Pool} {amount : UInt64} {M : Ledger}
      (decoded : Request.decode c.data = .ok (.initializePool amount))
      (step : L.Founds S c pool p amount M) :
      Change S L c M (.poolInitialized pool p.house p.vault amount)
  | stakes {x : Seats} {seed : Seed} {amount : UInt64} {roll bump : UInt8}
      {p q : Pool} {M : Ledger}
      (decoded : Request.decode c.data = .ok (.placeBet seed amount roll))
      (step : L.Stakes S c x seed amount roll bump p q M) :
      Change S L c M (.betPlaced x.bet x.player x.pool seed amount roll L.slot)
  | resolves {x : Seats} {b : Bet} {p q : Pool} {s : Signature}
      {t : Game.Settlement} {M : Ledger}
      (decoded : Request.decode c.data = .ok (.resolveBet s))
      (step : L.Resolves c x b p q s t M) :
      Change S L c M
        (.betResolved x.bet x.player b.roll t.outcome t.won t.payout)
  | refunds {x : Seats} {b : Bet} {p q : Pool} {M : Ledger}
      (decoded : Request.decode c.data = .ok .refundBet)
      (step : L.Refunds c x b p q M) :
      Change S L c M (.betRefunded x.bet x.player b.amount L.slot)

theorem Ledger.change_of_effects (hS : Apart S) (hL : Sound S L)
    (hc : c.Lawful S) {e : Effects} (h : c.effects L.slot L.get = .ok e) :
    L.Change S c (L.commit (c.accounts.map (·.key)) e.view) e.event := by
  obtain ⟨hprogram, r, hdecode, hrun⟩ := Call.effects_eq_ok_iff.1 h
  cases r with
  | initializePool amount =>
    obtain ⟨pool, p, hstep, hevent⟩ :=
      Call.founds_of_ok hS hc hprogram hdecode hrun
    rw [hevent]
    exact .founds hdecode hstep
  | placeBet seed amount roll =>
    obtain ⟨x, bump, p, q, hstep, hevent⟩ :=
      Call.stakes_of_ok hS hL hc hprogram hdecode hrun
    rw [hevent]
    exact .stakes hdecode hstep
  | resolveBet s =>
    obtain ⟨x, b, p, q, t, hstep, hevent⟩ :=
      Call.resolves_of_ok hS hL hprogram hrun
    rw [hevent]
    exact .resolves hdecode hstep
  | refundBet =>
    obtain ⟨x, b, p, q, hstep, hevent⟩ := Call.refunds_of_ok hS hL hprogram hrun
    rw [hevent]
    exact .refunds hdecode hstep

theorem Ledger.change_of_run (hS : Apart S) (hL : Sound S L) (hc : c.Lawful S)
    {event : Event} (h : (L.run c).result = .ok (M, event)) :
    L.Change S c M event := by
  obtain ⟨e, he, rfl, rfl⟩ := effects_of_run h
  exact change_of_effects hS hL hc he

/-- A call that fails leaves the ledger alone, and one that goes well makes one
of the four changes and reports it. -/
theorem Ledger.result_cases (hS : Apart S) (hL : Sound S L) (hc : c.Lawful S) :
    (∃ f, (L.run c).result = .error f ∧ L.after c = L)
      ∨ ∃ event, (L.run c).result = .ok (L.after c, event)
        ∧ L.Change S c (L.after c) event := by
  cases h : c.effects L.slot L.get with
  | error f =>
    rw [after, run_of_error h]
    exact .inl ⟨f, rfl, rfl⟩
  | ok e =>
    rw [after, run_of_ok h]
    exact .inr ⟨e.event, rfl, change_of_effects hS hL hc h⟩

/-- A call leaves the ledger alone or makes one of the four changes. -/
theorem Ledger.after_eq_or_change (hS : Apart S) (hL : Sound S L)
    (hc : c.Lawful S) :
    L.after c = L ∨ ∃ event, L.Change S c (L.after c) event := by
  rcases result_cases hS hL hc with ⟨_, _, hsame⟩ | ⟨event, _, hchange⟩
  · exact .inl hsame
  · exact .inr ⟨event, hchange⟩

/-! A change is the one that was asked for, with the accounts that were
named. -/

theorem Ledger.Change.founds_of_decoded {amount : UInt64} {event : Event}
    (h : L.Change S c M event)
    (hdecode : Request.decode c.data = .ok (.initializePool amount)) : ∃ pool p,
      L.Founds S c pool p amount M
        ∧ event = .poolInitialized pool p.house p.vault amount := by
  cases h with
  | stakes decoded _ => cases hdecode.symm.trans decoded
  | resolves decoded _ => cases hdecode.symm.trans decoded
  | refunds decoded _ => cases hdecode.symm.trans decoded
  | founds decoded step =>
    cases hdecode.symm.trans decoded
    exact ⟨_, _, step, rfl⟩

section

variable {x : Seats} {event : Event}

theorem Ledger.Change.stakes_of_seated {seed : Seed} {amount : UInt64}
    {roll : UInt8} (h : L.Change S c M event)
    (hdecode : Request.decode c.data = .ok (.placeBet seed amount roll))
    (hc : c.Seated .placeBet x) :
    ∃ bump p q, L.Stakes S c x seed amount roll bump p q M
      ∧ event = .betPlaced x.bet x.player x.pool seed amount roll L.slot := by
  cases h with
  | founds decoded _ => cases hdecode.symm.trans decoded
  | resolves decoded _ => cases hdecode.symm.trans decoded
  | refunds decoded _ => cases hdecode.symm.trans decoded
  | stakes decoded step =>
    cases hdecode.symm.trans decoded
    cases step.seated.named.unique (by simp) hc.named
    exact ⟨_, _, _, step, rfl⟩

theorem Ledger.Change.resolves_of_seated {s : Signature}
    (h : L.Change S c M event)
    (hdecode : Request.decode c.data = .ok (.resolveBet s))
    (hc : c.Seated .resolveBet x) :
    ∃ b p q t, L.Resolves c x b p q s t M
      ∧ event
        = .betResolved x.bet x.player b.roll t.outcome t.won t.payout := by
  cases h with
  | founds decoded _ => cases hdecode.symm.trans decoded
  | stakes decoded _ => cases hdecode.symm.trans decoded
  | refunds decoded _ => cases hdecode.symm.trans decoded
  | resolves decoded step =>
    cases hdecode.symm.trans decoded
    cases step.seated.named.unique (by simp) hc.named
    exact ⟨_, _, _, _, step, rfl⟩

theorem Ledger.Change.refunds_of_seated (h : L.Change S c M event)
    (hdecode : Request.decode c.data = .ok .refundBet)
    (hc : c.Seated .refundBet x) :
    ∃ b p q, L.Refunds c x b p q M
      ∧ event = .betRefunded x.bet x.player b.amount L.slot := by
  cases h with
  | founds decoded _ => cases hdecode.symm.trans decoded
  | stakes decoded _ => cases hdecode.symm.trans decoded
  | resolves decoded _ => cases hdecode.symm.trans decoded
  | refunds decoded step =>
    cases step.seated.named.unique (by simp) hc.named
    exact ⟨_, _, _, step, rfl⟩

end

theorem Ledger.Change.sound (hS : Apart S) (hL : Sound S L) {event : Event}
    (h : L.Change S c M event) : Sound S M := by
  cases h with
  | founds _ step => exact step.sound hS hL
  | stakes _ step => exact step.sound hS hL
  | resolves _ step => exact step.sound hS hL
  | refunds _ step => exact step.sound hS hL

namespace Sound

theorem after (hS : Apart S) (hL : Sound S L) (hc : c.Lawful S) :
    Sound S (L.after c) := by
  rcases Ledger.after_eq_or_change hS hL hc with h | ⟨event, h⟩
  · rw [h]
    exact hL
  · exact h.sound hS hL

theorem atSlot (hL : Sound S L) {slot : UInt64} (h : L.slot ≤ slot) :
    Sound S (L.atSlot slot) :=
  hL.of_same h (fun _ hk => hk) fun _ _ => ⟨UInt64.le_refl _, rfl, rfl⟩

theorem outside (hL : Sound S L) {accounts : Store}
    (h : L.accounts.Outside S accounts) :
    Sound S { L with accounts } := by
  refine hL.of_same (UInt64.le_refl _) h.owned fun k hk => ?_
  obtain ⟨lamports, hle, hget⟩ := h.gift k hk
  have hget : Ledger.get { L with accounts } k = { L.get k with lamports } :=
    hget
  rw [hget]
  exact ⟨hle, rfl, rfl⟩

theorem act (hS : Apart S) (hL : Sound S L) {a : Action} (ha : L.Allows S a) :
    Sound S (L.act a) := by
  cases a with
  | call c => exact hL.after hS ha
  | clock slot => exact hL.atSlot ha
  | outside accounts => exact hL.outside ha

end Sound

theorem Sound.play (hS : Apart S) (hL : Sound S L) {run : List Action}
    (hrun : L.AllowsAll S run) :
    Sound S (L.play run) :=
  Ledger.play_induction (fun _ _ hL ha => hL.act hS ha) hrun hL

theorem Ledger.AllowsAll.sound (hS : Apart S) (hL : L.Untouched)
    {run : List Action} (hrun : L.AllowsAll S run) : Sound S (L.play run) :=
  (Sound.of_untouched hL).play hS hrun

theorem Ledger.Reachable.sound (hS : Apart S) (hL : L.Reachable S) :
    Sound S L := by
  obtain ⟨L₀, run, hL₀, hrun, rfl⟩ := hL
  exact hrun.sound hS hL₀

/-- The clock never goes back. -/
theorem Ledger.Allows.slot_le {a : Action} (ha : L.Allows S a) :
    L.slot ≤ (L.act a).slot := by
  cases a with
  | call c => exact UInt64.le_of_eq (L.slot_after c).symm
  | clock slot => exact ha
  | outside accounts => exact UInt64.le_refl _

theorem Ledger.AllowsAll.slot_le {run : List Action}
    (hrun : L.AllowsAll S run) :
    L.slot ≤ (L.play run).slot := by
  refine play_induction (P := fun M => L.slot ≤ M.slot) ?_ hrun
    (UInt64.le_refl _)
  intro M a hM ha
  exact UInt64.le_trans hM ha.slot_le

/-! ## A first run

One house opens its pool and one player bets against it. All that happens stays
within three purposes, whose addresses are known, so everything that the chain
is asked to promise about this run can be checked.
-/

namespace Sample

def house : Key := Block.replicate 32 18

def player : Key := Block.replicate 32 7

def pool : Key :=
  ⟨[0x7d, 0xa8, 0x00, 0x58, 0x0a, 0xa9, 0xed, 0xca, 0xc0, 0x8e, 0x74, 0x8a,
    0x6e, 0x24, 0x5f, 0x0e, 0x0c, 0x34, 0x85, 0x7f, 0x29, 0x9e, 0x2b, 0x05,
    0x26, 0x95, 0x04, 0x12, 0xfd, 0x99, 0xee, 0x74],
   rfl⟩

def vault : Key :=
  ⟨[0x89, 0xa1, 0xd7, 0x80, 0xeb, 0xf9, 0xbc, 0xc4, 0xa6, 0x92, 0xb8, 0xa2,
    0x85, 0x50, 0xba, 0x90, 0x52, 0x31, 0xe0, 0x2a, 0x01, 0xa3, 0x62, 0xfa,
    0x66, 0x75, 0x5f, 0x6c, 0x56, 0xda, 0x63, 0xa0],
   rfl⟩

def bet : Key :=
  ⟨[0xd4, 0xdb, 0x4f, 0x66, 0x7e, 0x07, 0x79, 0xa1, 0x46, 0xa8, 0x76, 0xb8,
    0x69, 0xe9, 0xed, 0x8e, 0x78, 0x0d, 0xde, 0xde, 0x3d, 0x2d, 0xbd, 0x1e,
    0x68, 0x67, 0x59, 0xc4, 0xb5, 0xee, 0x40, 0xb1],
   rfl⟩

def seats : Seats := ⟨house, player, pool, vault, bet⟩

def addresses : List (Purpose × Key) :=
  [(.pool house, pool), (.vault house, vault), (.bet vault 0, bet)]

/-- Nobody has used the program, and two people have something to spend. -/
def start : Ledger :=
  ((Ledger.genesis 5).set house ⟨1000000000, Key.system, []⟩).set player
    ⟨1000000000, Key.system, []⟩

/-- A request with the accounts that it asks for. -/
def call (r : Request) : Call where
  program := Key.game
  accounts := Call.accountsFor r.kind seats.key
  data := r.encode
  before := []
  index := 0

def opening : Call := call (.initializePool 100000000)

def betting : Call := call (.placeBet 0 1000000 50)

/-- The pool is open and no bet is placed. -/
def opened : Ledger := start.after opening

def ledger : Ledger := (start.after opening).after betting

theorem find?_addresses :
    ∀ e ∈ addresses, (find? e.1).map Prod.fst = some e.2 := by
  decide +kernel

theorem apart : Apart (Known addresses) :=
  apart_known find?_addresses (by decide +kernel)

theorem opening_lawful : opening.Lawful (Known addresses) :=
  Call.lawful_known find?_addresses (by decide +kernel) (by decide +kernel)

theorem betting_lawful : betting.Lawful (Known addresses) :=
  Call.lawful_known find?_addresses (by decide +kernel) (by decide +kernel)

theorem start_untouched : start.Untouched := by
  intro k
  rw [start, Ledger.get_set]
  split
  next => decide
  next =>
    rw [Ledger.get_set]
    split
    next => decide
    next =>
      rw [Ledger.genesis, Ledger.get, Store.get_set]
      split
      next => decide
      next => exact Key.system_ne_game

/-- What happens in the first run. -/
def placed : List Action := [.call opening, .call betting]

theorem play_placed : start.play placed = ledger := by
  rw [placed, Ledger.play_cons, Ledger.play_cons, Ledger.play_nil,
    Ledger.act_call, Ledger.act_call, ledger]

theorem placed_allowed : start.AllowsAll (Known addresses) placed :=
  ⟨opening_lawful, betting_lawful, trivial⟩

theorem reachable : ledger.Reachable (Known addresses) :=
  ((start_untouched.reachable _).step (a := .call opening) opening_lawful).step
    (a := .call betting) betting_lawful

/-- What the run leaves of the pool and of the bet, and that no lamport is
lost. -/
theorem stored : ledger.pool? pool
      = some ⟨house, 255, vault, 255, 5, 100000000, 1, 1000000, 1000000, 0, 0,
        1⟩
    ∧ ledger.bet? bet = some ⟨player, pool, 0, 5, 50, 1000000, 255⟩
    ∧ ledger.total = 2000000001 := by
  decide +kernel

theorem vault_holds : (ledger.get vault).lamports = 101890880 := by
  decide +kernel

/-- The same ledger once the time of the bet is over. -/
def late : Ledger := ledger.atSlot 1005

theorem waiting_allowed : ledger.Allows (Known addresses) (.clock 1005) := by
  show ledger.slot ≤ 1005
  rw [ledger, Ledger.slot_after, Ledger.slot_after]
  decide

theorem late_reachable : late.Reachable (Known addresses) :=
  reachable.step waiting_allowed

theorem late_stored : late.pool? pool
      = some ⟨house, 255, vault, 255, 5, 100000000, 1, 1000000, 1000000, 0, 0,
        1⟩
    ∧ late.bet? bet = some ⟨player, pool, 0, 5, 50, 1000000, 255⟩
    ∧ late.total = 2000000001 := by
  rw [late, Ledger.pool?_atSlot, Ledger.bet?_atSlot, Ledger.total_atSlot]
  exact stored

theorem refunding_seated : (call .refundBet).Seated .refundBet seats :=
  Call.seated_of_accounts [] rfl rfl

end Sample

end HouseDice
