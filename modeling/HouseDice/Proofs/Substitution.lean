import HouseDice.Proofs.Binding

/-!
# No account in another's place

Whoever calls the program chooses the accounts that it is given, and some of
them are checked only against what other accounts say: a pool by the bump that
it stores, a bet by its seed and its bump. Nothing is gained by it. What is
stored is true in a sound ledger, so the accounts of a call about a bet that
goes well are the ones that belong together, and the one whose word is needed
has signed. No other account is touched, whoever it belongs to.
-/

namespace HouseDice

open Address

variable {S : Set Purpose} {L M : Ledger} {c : Call} {x : Seats} {b : Bet}
  {p q : Pool}

/-! ## What belongs together -/

/-- The accounts in these seats belong together: the addresses are those of the
house in its seat and of the bet's seed, and the pool and the bet name what sits
beside them. -/
structure Seats.Genuine (x : Seats) (b : Bet) (p : Pool) : Prop where
  pool : ∃ bump, find? (.pool x.house) = some (x.pool, bump)
  vault : ∃ bump, find? (.vault x.house) = some (x.vault, bump)
  bet : ∃ bump, find? (.bet x.vault b.seed) = some (x.bet, bump)
  house : p.house = x.house
  bank : p.vault = x.vault
  betPool : b.pool = x.pool
  player : b.player = x.player

/-- The bet that a request is about: a new one with the seed that it brings, or
the one that was open under this key and is not any more. -/
def Request.Concerns (r : Request) (L M : Ledger) (B : Key) (b : Bet) : Prop :=
  match r with
  | .placeBet seed _ _ => L.bet? B = none ∧ M.bet? B = some b ∧ b.seed = seed
  | .resolveBet _ | .refundBet => L.bet? B = some b ∧ M.bet? B = none
  | .initializePool _ => False

theorem Call.Names.key?_instructions (h : c.Names .resolveBet x) :
    c.key? 5 = some Key.instructions :=
  h (⟨.instructions, false, false⟩, 5) (by simp [places])

theorem Ledger.Stakes.genuine {seed : Seed} {amount : UInt64}
    {roll bump : UInt8} (h : L.Stakes S c x seed amount roll bump p q M) :
    x.Genuine (x.bets seed L.slot roll amount bump) p :=
  ⟨h.stand.pool.2, h.stand.vault.2, h.stand.bet.2, h.house, h.vault, rfl, rfl⟩

theorem Ledger.Holds.genuine (h : L.Holds x b p) (hL : Sound S L) :
    x.Genuine b p := by
  have hx := h.stand hL
  exact ⟨hx.pool.2, hx.vault.2, hx.bet.2, h.house, h.vault, h.betPool, h.player⟩

/-! ## What is left alone -/

/-- Nothing has changed but the accounts in these seats. In particular other
bets have not, nor has anything of other houses. -/
structure Ledger.KeepsOthers (L M : Ledger) (x : Seats) : Prop where
  account : ∀ k, k ∉ [x.player, x.pool, x.vault, x.bet] → M.get k = L.get k
  bet : ∀ B b, L.bet? B = some b → B ≠ x.bet → M.get B = L.get B
  house : ∀ P p, L.pool? P = some p → p.house ≠ x.house →
    M.get P = L.get P ∧ M.get p.vault = L.get p.vault
      ∧ ∀ B b, L.bet? B = some b → b.pool = P → M.get B = L.get B

theorem Ledger.StepsTo.keepsOthers (h : L.StepsTo S x p q M) (hS : Apart S)
    (hL : Sound S L) :
    L.KeepsOthers M x := by
  obtain ⟨purse, vault, bet, hsteps, rfl⟩ := h
  have hbet : ∀ B b, L.bet? B = some b → B ≠ x.bet →
      (L.betStep x purse vault q bet).get B = L.get B := by
    intro B b hb hB
    exact hsteps.get_bet_of_ne hS hL hB hb purse vault
  refine ⟨?_, hbet, ?_⟩
  · intro k hk
    simp only [List.mem_cons, List.not_mem_nil, or_false, not_or] at hk
    obtain ⟨hplayer, hpool, hvault, hout⟩ := hk
    exact L.get_betStep_of_ne (by simp [hplayer, hvault]) hpool hout
  · intro P p' hp' hhouse
    have hP : P ≠ x.pool := by
      rintro rfl
      have hsame := hp'.symm.trans hsteps.pool
      rw [Option.some.injEq] at hsame
      rw [hsame] at hhouse
      exact hhouse (hsteps.vault_eq hS hL).1
    refine ⟨hsteps.get_pool_of_ne hS hL hP hp' purse vault,
      hsteps.get_vault_of_ne hS hL hP hp' purse vault, ?_⟩
    intro B b hb hpool
    refine hbet B b hb ?_
    rintro rfl
    -- The account of the bet would count for two pools.
    have hnone := hsteps.tallyIn_before hS hL hP fun _ => 1
    rw [Ledger.tallyIn_of_bet? hb, if_pos hpool] at hnone
    cases hnone

/-- In every reachable ledger, a call about a bet that goes well has been given
the accounts that belong to the house it names and to that bet, was signed for
by the player or, if it settles, by the house, and has left every other account
alone. -/
theorem Ledger.Reachable.accounts_genuine (hS : Apart S) (hL : L.Reachable S)
    (hc : c.Lawful S) {r : Request} (hdecode : Request.decode c.data = .ok r)
    (hkind : r.kind ≠ .initializePool) {event : Event}
    (hrun : (L.run c).result = .ok (M, event)) :
    ∃ (x : Seats) (b : Bet) (p : Pool),
    c.Names r.kind x ∧ L.pool? x.pool = some p
      ∧ x.Genuine b p ∧ r.Concerns L M x.bet b
      ∧ c.rights.signs (x.author r.kind)
      ∧ (r.kind = .resolveBet → c.key? 5 = some Key.instructions)
      ∧ L.KeepsOthers M x := by
  have hsound := hL.sound hS
  cases change_of_run hS hsound hc hrun with
  | founds decoded step =>
    rw [hdecode, Except.ok.injEq] at decoded
    exact absurd (congrArg Request.kind decoded) hkind
  | @stakes x seed amount roll bump p q _ decoded step =>
    rw [hdecode, Except.ok.injEq] at decoded
    subst decoded
    exact ⟨x, _, p, step.seated.named, step.pool, step.genuine,
      ⟨step.blank Bet.record, step.bet?_bet hS, rfl⟩, step.seated.signed, by
        simp [Request.kind],
      step.stepsTo.keepsOthers hS hsound⟩
  | @resolves x b p q s t _ decoded step =>
    rw [hdecode, Except.ok.injEq] at decoded
    subst decoded
    have hclosed := step.closes.bet?_bet hS hsound step.holds
      (Pool.releases_of_settle step.counted)
    exact ⟨x, b, p, step.seated.named, step.holds.pool,
      step.holds.genuine hsound, ⟨step.holds.bet, hclosed⟩, step.seated.signed,
      fun _ => step.seated.named.key?_instructions,
      (step.stepsTo hsound).keepsOthers hS hsound⟩
  | @refunds x b p q _ decoded step =>
    rw [hdecode, Except.ok.injEq] at decoded
    subst decoded
    have hclosed := step.closes.bet?_bet hS hsound step.holds
      (Pool.releases_of_refund step.counted)
    exact ⟨x, b, p, step.seated.named, step.holds.pool,
      step.holds.genuine hsound, ⟨step.holds.bet, hclosed⟩, step.seated.signed,
      by simp [Request.kind], (step.stepsTo hsound).keepsOthers hS hsound⟩

/-- One house settles its bet, and nothing of the other house has changed. -/
theorem accounts_genuine_two_houses : ∃ (M : Ledger) (event : Event),
    (Sample.rivals.run Sample.settling).result = .ok (M, event)
      ∧ M.bet? Sample.bet = none
      ∧ M.get Sample.rival.pool = Sample.rivals.get Sample.rival.pool
      ∧ M.get Sample.rival.vault = Sample.rivals.get Sample.rival.vault
      ∧ M.get Sample.rival.bet = Sample.rivals.get Sample.rival.bet := by
  obtain ⟨_, _, hpool, hbet, hsettles⟩ := Sample.rivals_stored
  obtain ⟨⟨M, event⟩, hrun⟩ := Option.isSome_iff_exists.1 hsettles
  rw [toOption_eq_some_iff] at hrun
  have hlawful : Sample.settling.Lawful (Known Sample.rivalAddresses) :=
    Call.lawful_known Sample.find?_rivalAddresses (by decide +kernel)
      (by decide +kernel)
  obtain ⟨x, b, p, hnames, _, _, hconcerns, _, _, hkeeps⟩ :=
    Ledger.Reachable.accounts_genuine
      Sample.rivals_apart Sample.rivals_reachable hlawful
      (Request.decode_encode _) (by decide) hrun
  have hseats : Sample.settling.Names .resolveBet Sample.seats :=
    (Call.seated_of_accounts [] rfl rfl).named
  obtain rfl := hnames.unique (by decide) hseats
  obtain ⟨hrivalPool, hrivalVault, hrivalBets⟩ :=
    hkeeps.house _ _ hpool (by decide)
  exact ⟨M, event, hrun, hconcerns.2, hrivalPool, hrivalVault,
    hrivalBets _ _ hbet rfl⟩

end HouseDice
