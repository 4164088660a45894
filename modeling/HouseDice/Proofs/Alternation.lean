import HouseDice.Proofs.Refunds
import HouseDice.Proofs.Rent

/-!
# Every bet is closed once

An address at which bets are placed sees placements and closings in turn. A
placement needs the address to be free: an open bet that is found there is
turned down by the rules, before anybody is asked for money. A settlement or a
refund needs an open bet and takes it away. Lamports that somebody sends to the
address in between do not make a bet of it, because a bet is an account of the
program and others cannot make one.

So the history of an address is told by how many calls about it have gone well.
After an even number nothing can be closed there, and after an odd number
nothing can be placed.
-/

namespace HouseDice

open Address

variable {S : Set Purpose} {L M : Ledger} {c : Call} {x : Seats} {p q : Pool}
  {b : Bet} {B : Key}

/-! ## Calls about one address -/

/-- What a call asks for about the bet under `B`, if it is about that bet. -/
def Call.deed? (c : Call) (B : Key) : Option Request.Kind :=
  match Request.decode c.data with
  | .ok r =>
    if r.kind ≠ .initializePool ∧ c.key? 4 = some B then some r.kind else none
  | .error _ => none

/-- What happens to go well about the bet under `B`. -/
def Ledger.deeds (B : Key) (L : Ledger) : Action → List Request.Kind
  | .call c =>
    match (L.run c).result with
    | .ok _ => (c.deed? B).toList
    | .error _ => []
  | .clock _ | .outside _ => []

/-- Bets are placed in even places of the list and closed in odd ones. -/
def Alternate (deeds : List Request.Kind) : Prop :=
  ∀ i kind, deeds[i]? = some kind →
    if i % 2 = 0 then kind = .placeBet
    else kind = .resolveBet ∨ kind = .refundBet

theorem Alternate.append_one {deeds : List Request.Kind} (h : Alternate deeds)
    {kind : Request.Kind}
    (hlast : if deeds.length % 2 = 0 then kind = .placeBet
      else kind = .resolveBet ∨ kind = .refundBet) :
    Alternate (deeds ++ [kind]) := by
  intro i k hi
  rcases Nat.lt_trichotomy i deeds.length with hlt | rfl | hgt
  · rw [List.getElem?_append_left hlt] at hi
    exact h i k hi
  · rw [List.getElem?_concat_length, Option.some.injEq] at hi
    exact hi ▸ hlast
  · rw [List.getElem?_eq_none (by simp; omega)] at hi
    cases hi

theorem Call.deed?_eq_some_iff {kind : Request.Kind} :
    c.deed? B = some kind ↔ ∃ r, Request.decode c.data = .ok r ∧ r.kind = kind
      ∧ kind ≠ .initializePool ∧ c.key? 4 = some B := by
  unfold deed?
  cases Request.decode c.data with
  | error e => simp
  | ok r =>
    simp only [Option.ite_none_right_eq_some, Option.some.injEq,
      Except.ok.injEq, exists_eq_left']
    constructor
    · intro h
      obtain ⟨⟨hkind, hkey⟩, rfl⟩ := h
      exact ⟨rfl, hkind, hkey⟩
    · intro h
      obtain ⟨rfl, hkind, hkey⟩ := h
      exact ⟨⟨hkind, hkey⟩, rfl⟩

theorem Call.deed?_of_seated {r : Request}
    (hdecode : Request.decode c.data = .ok r) (hc : c.Seated r.kind x)
    (hkind : r.kind ≠ .initializePool) (B : Key) :
    c.deed? B = if x.bet = B then some r.kind else none := by
  simp only [deed?, hdecode, hkind, hc.named.key?_bet hkind, ne_eq,
    not_false_eq_true, true_and, Option.some.injEq]

/-- A call asks for one thing, whatever bets it may be about. -/
theorem Call.deed?_unique {B' : Key} {kind kind' : Request.Kind}
    (h : c.deed? B = some kind) (h' : c.deed? B' = some kind') :
    kind = kind' := by
  obtain ⟨r, hdecode, rfl, _⟩ := deed?_eq_some_iff.1 h
  obtain ⟨r', hdecode', rfl, _⟩ := deed?_eq_some_iff.1 h'
  rw [hdecode, Except.ok.injEq] at hdecode'
  rw [hdecode']

/-- A call that asks for something about the bet under `B` seats that bet. -/
theorem Call.eq_of_deed {r : Request} (hdecode : Request.decode c.data = .ok r)
    (hc : c.Seated r.kind x) (hkind : r.kind ≠ .initializePool)
    {kind : Request.Kind} (hdeed : c.deed? B = some kind) :
    x.bet = B ∧ r.kind = kind := by
  rw [deed?_of_seated hdecode hc hkind, Option.ite_none_right_eq_some,
    Option.some.injEq] at hdeed
  exact hdeed

theorem Ledger.Change.stakes_of_deed {event : Event} (h : L.Change S c M event)
    (hdeed : c.deed? B = some .placeBet) : ∃ x seed amount roll bump p q,
      L.Stakes S c x seed amount roll bump p q M ∧ x.bet = B := by
  cases h with
  | founds decoded step => simp [Call.deed?, decoded, Request.kind] at hdeed
  | stakes decoded step =>
    exact ⟨_, _, _, _, _, _, _, step,
      (Call.eq_of_deed decoded step.seated (by simp [Request.kind]) hdeed).1⟩
  | resolves decoded step =>
    cases (Call.eq_of_deed decoded step.seated (by simp [Request.kind]) hdeed).2
  | refunds decoded step =>
    cases (Call.eq_of_deed decoded step.seated (by simp [Request.kind]) hdeed).2

theorem Ledger.Change.refunds_of_deed {event : Event} (h : L.Change S c M event)
    (hdeed : c.deed? B = some .refundBet) :
    ∃ x b p q, L.Refunds c x b p q M ∧ x.bet = B := by
  cases h with
  | founds decoded step => simp [Call.deed?, decoded, Request.kind] at hdeed
  | stakes decoded step =>
    cases (Call.eq_of_deed decoded step.seated (by simp [Request.kind]) hdeed).2
  | resolves decoded step =>
    cases (Call.eq_of_deed decoded step.seated (by simp [Request.kind]) hdeed).2
  | refunds decoded step =>
    exact ⟨_, _, _, _, step,
      (Call.eq_of_deed decoded step.seated (by simp [Request.kind]) hdeed).1⟩

/-! ## One step -/

/-- How the account under `B` has changed, by what was done about it. -/
inductive Ledger.Turns (L M : Ledger) (B : Key) :
    Option Request.Kind → Prop where
  | same (same : M.bet? B = L.bet? B) : Turns L M B none
  | placed (free : L.bet? B = none) (taken : (M.bet? B).isSome) :
      Turns L M B (some .placeBet)
  | closed {kind : Request.Kind}
      (closing : kind = .resolveBet ∨ kind = .refundBet)
      (taken : (L.bet? B).isSome) (free : M.bet? B = none) :
      Turns L M B (some kind)

/-- A step of one bet is about that bet and about no other. -/
theorem Ledger.StepsTo.turns (hS : Apart S) (hL : Sound S L)
    (h : L.StepsTo S x p q M) {kind : Request.Kind}
    (hturns : L.Turns M x.bet (some kind)) (B : Key) :
    L.Turns M B (if x.bet = B then some kind else none) := by
  split
  next hB =>
    rw [← hB]
    exact hturns
  next hB =>
    obtain ⟨purse, vault, bet, hsteps, rfl⟩ := h
    exact .same (hsteps.bet?_of_ne hS hL (Ne.symm hB))

theorem Ledger.Closes.turns {paid : UInt64} (hS : Apart S) (hL : Sound S L)
    (h : L.Holds x b p) (hq : Pool.Releases b.amount p q)
    (hM : L.Closes x q paid M) {kind : Request.Kind}
    (hkind : kind = .resolveBet ∨ kind = .refundBet) (B : Key) :
    L.Turns M B (if x.bet = B then some kind else none) := by
  refine (hM.stepsTo hL h hq).turns hS hL
    (.closed hkind ?_ (hM.bet?_bet hS hL h hq)) B
  rw [h.bet]
  rfl

theorem Ledger.Change.turns (hS : Apart S) (hL : Sound S L) {event : Event}
    (h : L.Change S c M event) (B : Key) : L.Turns M B (c.deed? B) := by
  cases h with
  | founds decoded step =>
    have hnone : c.deed? B = none := by simp [Call.deed?, decoded, Request.kind]
    rw [hnone]
    exact .same (step.bet?_eq hS hL B)
  | @stakes x seed amount roll bump p q _ decoded step =>
    rw [Call.deed?_of_seated decoded step.seated (by simp [Request.kind])]
    refine step.stepsTo.turns hS hL (.placed (step.blank Bet.record) ?_) B
    rw [step.bet?_bet hS]
    rfl
  | resolves decoded step =>
    rw [Call.deed?_of_seated decoded step.seated (by simp [Request.kind])]
    exact step.closes.turns hS hL step.holds
      (Pool.releases_of_settle step.counted) (.inl rfl) B
  | refunds decoded step =>
    rw [Call.deed?_of_seated decoded step.seated (by simp [Request.kind])]
    exact step.closes.turns hS hL step.holds
      (Pool.releases_of_refund step.counted) (.inr rfl) B

theorem Sound.turns (hS : Apart S) (hL : Sound S L) {a : Action}
    (ha : L.Allows S a) (B : Key) :
    ∃ deed, L.deeds B a = deed.toList ∧ L.Turns (L.act a) B deed := by
  cases a with
  | call c =>
    rcases Ledger.result_cases hS hL ha with ⟨f, hrun, hsame⟩
      | ⟨event, hrun, hchange⟩
    · refine ⟨none, by simp only [Ledger.deeds, hrun]; rfl, .same ?_⟩
      show (L.after c).bet? B = L.bet? B
      rw [hsame]
    · exact ⟨c.deed? B,
        by simp only [Ledger.deeds, hrun], hchange.turns hS hL B⟩
  | clock slot => exact ⟨none, rfl, .same rfl⟩
  | outside accounts =>
    exact ⟨none, rfl, .same (Store.Outside.stored? ha Bet.record B)⟩

/-! ## The whole run -/

/-- What was done about a bet came in turns, and a bet is open where the last
turn placed one. -/
theorem Ledger.AllowsAll.turns (hS : Apart S) {L₀ : Ledger} (hL₀ : L₀.Untouched)
    {run : List Action} (hrun : L₀.AllowsAll S run) (B : Key) :
    Alternate (L₀.collect (deeds B) run)
      ∧ ((L₀.collect (deeds B) run).length % 2 = 1 ↔
        ((L₀.play run).bet? B).isSome) := by
  refine AllowsAll.induction
    (P := fun run => Alternate (L₀.collect (deeds B) run)
      ∧ ((L₀.collect (deeds B) run).length % 2 = 1 ↔
        ((L₀.play run).bet? B).isSome)) ?_ ?_ hrun
  · have hnone : L₀.bet? B = none := Account.stored?_of_owner_ne (hL₀ B)
    refine ⟨fun i kind hi => by simp [collect] at hi, ?_⟩
    rw [play_nil, hnone]
    simp [collect]
  · intro run a hrun ha ih
    obtain ⟨halternate, hopen⟩ := ih
    have hL : Sound S (L₀.play run) := hrun.sound hS hL₀
    obtain ⟨deed, hdeed, hturns⟩ := hL.turns hS ha B
    rw [collect_append_one, hdeed, play_append]
    show _ ∧ (_ ↔ (((L₀.play run).act a).bet? B).isSome)
    cases hturns with
    | same hsame =>
      rw [hsame, Option.toList_none, List.append_nil]
      exact ⟨halternate, hopen⟩
    | placed hfree htaken =>
      have heven : (L₀.collect (deeds B) run).length % 2 = 0 := by
        simp only [hfree, Option.isSome_none, Bool.false_eq_true,
          iff_false] at hopen
        omega
      refine ⟨halternate.append_one (by rw [if_pos heven]), ?_⟩
      rw [Option.toList_some, List.length_append, List.length_singleton]
      simp only [htaken, iff_true]
      omega
    | @closed kind hclosing htaken hfree =>
      have hodd : (L₀.collect (deeds B) run).length % 2 = 1 := hopen.2 htaken
      refine ⟨halternate.append_one (by rw [if_neg (by omega)]; exact hclosing),
        ?_⟩
      rw [Option.toList_some, List.length_append, List.length_singleton, hfree]
      simp only [Option.isSome_none, Bool.false_eq_true, iff_false]
      omega

/-- Nothing is closed where no bet is open. -/
theorem Sound.closing_fails (hS : Apart S) (hL : Sound S L)
    (hb : L.bet? B = none) {kind : Request.Kind} (hdeed : c.deed? B = some kind)
    (hkind : kind ≠ .placeBet) :
    ∃ f, (L.run c).result = .error f ∧ L.after c = L := by
  cases h : c.effects L.slot L.get with
  | error f =>
    rw [Ledger.after, Ledger.run_of_error h]
    exact ⟨f, rfl, rfl⟩
  | ok e =>
    exfalso
    obtain ⟨hprogram, r, hdecode, hrun⟩ := Call.effects_eq_ok_iff.1 h
    obtain ⟨r', hdecode', rfl, hnew, hkey⟩ := Call.deed?_eq_some_iff.1 hdeed
    rw [hdecode, Except.ok.injEq] at hdecode'
    subst hdecode'
    -- Whatever was closed stood under `B`.
    have hclosed : ∀ {y : Seats} {b : Bet} {p : Pool},
      c.Seated r.kind y → L.Holds y b p →
        False := by
      intro y b p hseated hholds
      have hB := hkey.symm.trans (hseated.named.key?_bet hnew)
      rw [Option.some.injEq] at hB
      have hbet := hholds.bet
      rw [← hB, hb] at hbet
      cases hbet
    cases r with
    | initializePool amount => exact hnew rfl
    | placeBet seed amount roll => exact hkind rfl
    | resolveBet s =>
      obtain ⟨y, b, p, q, t, hstep, _⟩ :=
        Call.resolves_of_ok hS hL hprogram hrun
      exact hclosed hstep.seated hstep.holds
    | refundBet =>
      obtain ⟨y, b, p, q, hstep, _⟩ := Call.refunds_of_ok hS hL hprogram hrun
      exact hclosed hstep.seated hstep.holds

/-- Nothing is placed where a bet is open. -/
theorem Sound.placing_fails (hL : Sound S L) (hR : L.Rented) (h : L.Holds x b p)
    {player : Key} {seed : Seed} {amount : UInt64} {roll bump : UInt8}
    (hc : c.Seated .placeBet { x with player })
    (hdecode : Request.decode c.data = .ok (.placeBet seed amount roll))
    (hfind : find? (.bet x.vault seed) = some (x.bet, bump)) :
    (L.run c).result = .error (.game .duplicateSeed none) := by
  have heffects : c.effects L.slot L.get
      = c.placeBet L.slot L.get seed amount roll := by
    rw [Call.effects, hc.program, hdecode]
    rfl
  have hrent := hR x.bet (Account.owner_of_stored? h.bet)
  exact Ledger.run_of_error (heffects.trans
    (Call.placeBet_of_open hL hc h.pool h.house h.vault hfind h.bet hrent))

/-! ## While a bet is open -/

theorem Ledger.call_of_deeds {kind : Request.Kind} {a : Action}
    (h : kind ∈ L.deeds B a) :
    ∃ c r, a = .call c ∧ (L.run c).result = .ok r ∧ c.deed? B = some kind := by
  cases a with
  | call c =>
    rw [deeds] at h
    split at h
    next r hr => exact ⟨c, r, rfl, hr, Option.mem_toList.1 h⟩
    next => cases h
  | clock slot => cases h
  | outside accounts => cases h

/-- What happens leaves an open bet as it is or closes it, and a refund only
once its time is over. -/
theorem Sound.stays_or_closes (hS : Apart S) (hL : Sound S L) {a : Action}
    (ha : L.Allows S a) (hb : L.bet? B = some b) :
    (L.act a).bet? B = some b ∨ .resolveBet ∈ L.deeds B a
      ∨ .refundBet ∈ L.deeds B a
        ∧ min (b.slot.toNat + 1000) (UInt64.size - 1) ≤ L.slot.toNat := by
  obtain ⟨deed, hdeed, hturns⟩ := hL.turns hS ha B
  rw [hdeed]
  cases hturns with
  | same hsame => exact .inl (hsame.trans hb)
  | placed hfree _ =>
    rw [hb] at hfree
    cases hfree
  | closed hkind _ _ =>
    rcases hkind with rfl | rfl
    · exact .inr (.inl (by simp))
    · refine .inr (.inr ⟨by simp, ?_⟩)
      have hrefund : .refundBet ∈ L.deeds B a := by
        rw [hdeed]
        simp
      obtain ⟨c, ⟨M, event⟩, rfl, hrun, hc⟩ := Ledger.call_of_deeds hrefund
      obtain ⟨x, b', p, q, hrefunds, rfl⟩ :=
        (Ledger.change_of_run hS hL ha hrun).refunds_of_deed hc
      have hsame := hrefunds.holds.bet.symm.trans hb
      rw [Option.some.injEq] at hsame
      obtain ⟨htime, _⟩ := Pool.after_refund_eq_ok_iff.1 hrefunds.counted
      rw [hsame] at htime
      exact Game.refundable_eq_ok_iff.1 htime

/-- A bet that is not found any more was closed. -/
theorem Sound.closed_of_gone (hS : Apart S) (hL : Sound S L) {run : List Action}
    (hrun : L.AllowsAll S run) (hb : L.bet? B = some b)
    (hgone : (L.play run).bet? B ≠ some b) :
    .resolveBet ∈ L.collect (Ledger.deeds B) run
      ∨ .refundBet ∈ L.collect (Ledger.deeds B) run
        ∧ min (b.slot.toNat + 1000) (UInt64.size - 1)
          ≤ (L.play run).slot.toNat := by
  induction run generalizing L with
  | nil => exact absurd hb hgone
  | cons a rest ih =>
    rw [Ledger.collect, List.mem_append, List.mem_append]
    rcases hL.stays_or_closes hS hrun.1 hb with hstays | hsettled
      | ⟨hrefunded, htime⟩
    · rcases ih (hL.act hS hrun.1) hrun.2 hstays hgone with hsettled
        | ⟨hrefunded, htime⟩
      · exact .inl (.inr hsettled)
      · exact .inr ⟨.inr hrefunded, htime⟩
    · exact .inl (.inl hsettled)
    · have hslot := UInt64.le_iff_toNat_le.1 hrun.slot_le
      exact .inr ⟨.inl hrefunded, Nat.le_trans htime hslot⟩

/-- In every run, what goes well about one address is placing a bet and closing
it in turn. After a closing, and before the first bet, every settlement and
every refund there fails and changes nothing. While a bet is open, every new one
there is turned down for its seed. -/
theorem Ledger.Untouched.bets_alternate (hS : Apart S) {L₀ : Ledger}
    (hL₀ : L₀.Untouched) {run : List Action} (hrun : L₀.AllowsAll S run)
    (B : Key) :
    Alternate (L₀.collect (deeds B) run)
      ∧ ((L₀.collect (deeds B) run).length % 2 = 0 →
        ∀ c kind, Call.deed? c B = some kind → kind ≠ .placeBet →
          ∃ f, ((L₀.play run).run c).result = .error f
            ∧ (L₀.play run).after c = L₀.play run)
      ∧ ((L₀.collect (deeds B) run).length % 2 = 1 →
        ∃ b p, (L₀.play run).bet? B = some b
          ∧ (L₀.play run).pool? b.pool = some p
          ∧ (∃ bump, find? (.pool p.house) = some (b.pool, bump))
          ∧ (∃ bump, find? (.vault p.house) = some (p.vault, bump))
          ∧ (∃ bump, find? (.bet p.vault b.seed) = some (B, bump))
          ∧ ∀ (c : Call) player seed amount roll bump,
            c.Seated .placeBet ⟨p.house, player, b.pool, p.vault, B⟩ →
            Request.decode c.data = .ok (.placeBet seed amount roll) →
            find? (.bet p.vault seed) = some (B, bump) →
            ((L₀.play run).run c).result
              = .error (.game .duplicateSeed none)) := by
  have hreachable : (L₀.play run).Reachable S := ⟨L₀, run, hL₀, hrun, rfl⟩
  have hL := hreachable.sound hS
  obtain ⟨halternate, hopen⟩ := hrun.turns hS hL₀ B
  refine ⟨halternate, fun heven c kind hdeed hkind => ?_, fun hodd => ?_⟩
  · have hfree : (L₀.play run).bet? B = none := by
      rw [← Option.not_isSome_iff_eq_none, ← hopen]
      omega
    exact hL.closing_fails hS hfree hdeed hkind
  · obtain ⟨b, hb⟩ := Option.isSome_iff_exists.1 (hopen.1 hodd)
    obtain ⟨p, hp, hholds⟩ := hL.holds hb
    have hpool := (hholds.goodPool hL).stands
    exact ⟨b, p, hb, hp, ⟨p.bump, hpool.find⟩, ⟨p.vaultBump, hpool.vaultFind⟩,
      ⟨b.bump, (hholds.stands hL).find⟩,
      fun c player seed amount roll bump hc hdecode hfind =>
        hL.placing_fails (hreachable.rented hS) hholds hc hdecode hfind⟩

namespace Sample

/-- The player waits, and takes the stake back. -/
def refunded : List Action := placed ++ [.clock 1005, .call (call .refundBet)]

theorem refunding_lawful : (call .refundBet).Lawful (Known addresses) :=
  Call.lawful_known find?_addresses (by decide +kernel) (by decide +kernel)

theorem refunded_allowed : start.AllowsAll (Known addresses) refunded := by
  refine Ledger.allowsAll_append.2 ⟨placed_allowed, ?_⟩
  rw [play_placed]
  exact ⟨waiting_allowed, refunding_lawful, trivial⟩

end Sample

/-- A second bet under the same seed is turned down, and so is a second
refund. -/
theorem bets_alternate_first_run :
    (Sample.ledger.run Sample.betting).result
      = .error (.game .duplicateSeed none)
      ∧ ∃ f, ((Sample.start.play Sample.refunded).run
        (Sample.call .refundBet)).result
        = .error f := by
  obtain ⟨_, _, hopen⟩ :=
    Ledger.Untouched.bets_alternate Sample.apart Sample.start_untouched
      Sample.placed_allowed Sample.bet
  obtain ⟨_, hclosed, _⟩ :=
    Ledger.Untouched.bets_alternate Sample.apart Sample.start_untouched
      Sample.refunded_allowed Sample.bet
  have hodd :=
    (Sample.placed_allowed.turns Sample.apart
      Sample.start_untouched Sample.bet).2
  rw [Sample.play_placed] at hopen hodd
  obtain ⟨b, p, hb, hp, _, _, _, hplacing⟩ :=
    hopen (hodd.2 (by rw [Sample.stored.2.1]; rfl))
  have hbet := hb.symm.trans Sample.stored.2.1
  cases hbet
  have hpool := hp.symm.trans Sample.stored.1
  cases hpool
  have hfind : find? (.bet Sample.vault 0) = some (Sample.bet, 255) := by
    decide +kernel
  refine ⟨hplacing Sample.betting Sample.player 0 1000000 50 255
    (Call.seated_of_accounts [] rfl rfl) (Request.decode_encode _) hfind, ?_⟩
  have hgone : (Sample.start.play Sample.refunded).bet? Sample.bet = none := by
    decide +kernel
  have heven :=
    (Sample.refunded_allowed.turns Sample.apart
      Sample.start_untouched Sample.bet).2
  rw [hgone] at heven
  simp only [Option.isSome_none, Bool.false_eq_true, iff_false] at heven
  obtain ⟨f, hfails, _⟩ :=
    hclosed (by omega) (Sample.call .refundBet) .refundBet
      (by decide +kernel) (by decide)
  exact ⟨f, hfails⟩

end HouseDice
