import HouseDice.Proofs.SystemProgram

/-!
# What it takes to open an account

An account is opened the same way whether its address was empty or somebody had
sent lamports there before: it ends with the larger of what was there and the
rent minimum, and the payer has given the difference. So sending lamports ahead
can make an account cheaper for whoever opens it and can do nothing else. The
payer is only asked when something is missing.

The two ways are different calls of the system program, and what makes them
one statement is that both end in the same two writes.
-/

namespace HouseDice

/-! ## Rights -/

@[simp]
theorem Rights.signs_withSigner_self (r : Rights) (k : Key) :
    (r.withSigner k).signs k = true := by
  simp [withSigner]

theorem Rights.signs_withSigner_of_ne (r : Rights) {j k : Key} (h : j ≠ k) :
    (r.withSigner k).signs j = r.signs j := by
  simp [withSigner, h]

@[simp]
theorem Rights.writes_withSigner (r : Rights) (k j : Key) :
    (r.withSigner k).writes j = r.writes j := rfl

namespace Call

theorem derived_eq_ok_iff {purpose : Purpose} {key : Key} {role : Role}
    {bump : UInt8} :
    derived purpose key role = .ok bump ↔
    Address.find? purpose = some (key, bump) := by
  simp only [derived, bind_eq_ok_iff, demand_eq_ok_iff, ensure_eq_ok_iff,
    exists_const, pure, Except.pure, Except.ok.injEq]
  constructor
  · intro h
    obtain ⟨⟨address, found⟩, hfind, rfl, rfl⟩ := h
    exact hfind
  · intro hfind
    exact ⟨(key, bump), hfind, rfl, rfl⟩

/-! ## Opening -/

/-- Data and an owner for an account that has its lamports. -/
theorem allocate_assign_eq_ok_iff {r : Rights} {u w : View} {target owner : Key}
    {space : Nat} (hsign : r.signs target) :
    (do
      let u ← granted (SystemProgram.allocate r u target space)
      granted (SystemProgram.assign r u target owner)) = .ok w ↔
      r.writes target ∧ (u target).data = [] ∧ (u target).owner = Key.system
        ∧ w = u.put target ⟨(u target).lamports, owner,
          List.replicate space 0⟩ := by
  simp only [granted, bind_eq_ok_iff, mapError_eq_ok_iff,
    SystemProgram.allocate_eq_ok_iff]
  constructor
  · intro h
    obtain ⟨_, ⟨_, hwrite, hdata, howner, rfl⟩, hassign⟩ := h
    rw [SystemProgram.assign_eq_ok_iff (by rw [View.put_self]; exact howner),
      View.put_self, View.put_put] at hassign
    exact ⟨hwrite, hdata, howner, hassign.2.2⟩
  · intro h
    obtain ⟨hwrite, hdata, howner, rfl⟩ := h
    refine ⟨_, ⟨hsign, hwrite, hdata, howner, rfl⟩, ?_⟩
    rw [SystemProgram.assign_eq_ok_iff (by rw [View.put_self]; exact howner),
      View.put_self, View.put_put]
    exact ⟨hsign, hwrite, rfl⟩

/-- What opening an account asks for, and the view `w` that it leaves: the
account has at least its rent minimum, and the payer what remains. -/
structure Opens (c : Call) (v : View) (payer target : Key) (space : Nat)
    (owner : Key) (w : View) : Prop where
  writes : c.rights.writes target
  data : (v target).data = []
  system : (v target).owner = Key.system
  pays : (v target).lamports.toNat < (Ledger.rentMinimum space).toNat →
    c.rights.signs payer ∧ c.rights.writes payer ∧ (v payer).data = []
      ∧ (v payer).owner = Key.system
  view : ∃ left funded : UInt64,
    funded.toNat = max (v target).lamports.toNat
        (Ledger.rentMinimum space).toNat
      ∧ (v payer).lamports.toNat + (v target).lamports.toNat
        = left.toNat + funded.toNat
      ∧ w = (v.put payer { v payer with lamports := left }).put target
        ⟨funded, owner, List.replicate space 0⟩

section

variable {c : Call} {v w : View} {payer target owner : Key} {space : Nat}

/-- Nothing is there: the system program creates the account. -/
theorem openAccount_empty_iff (hne : payer ≠ target)
    (hrent : Ledger.rentMinimum space ≠ 0) (hempty : (v target).lamports = 0) :
    c.openAccount v payer target space owner = .ok w ↔
      c.Opens v payer target space owner w := by
  have hpos : 0 < (Ledger.rentMinimum space).toNat :=
    Nat.pos_of_ne_zero fun h => hrent (UInt64.toNat_inj.1 h)
  have hzero : (v target).lamports.toNat = 0 := by
    rw [hempty, UInt64.toNat_zero]
  simp only [openAccount, if_pos hempty, granted, mapError_eq_ok_iff,
    SystemProgram.createAccount_eq_ok_iff hne hempty hrent,
    Rights.signs_withSigner_of_ne _ hne, Rights.signs_withSigner_self,
    Rights.writes_withSigner]
  constructor
  · intro h
    obtain ⟨hsign, hwpayer, _, hwrite, hdata, howner, hpdata, hpowner, left,
      hleft, rfl⟩ := h
    exact ⟨hwrite, hdata, howner, fun _ => ⟨hsign, hwpayer, hpdata, hpowner⟩,
      left, Ledger.rentMinimum space, by omega, by omega, rfl⟩
  · intro h
    obtain ⟨hwrite, hdata, howner, hpayer, left, funded, hfunded, hleft, rfl⟩ :=
      h
    obtain ⟨hsign, hwpayer, hpdata, hpowner⟩ := hpayer (by omega)
    have heq : funded = Ledger.rentMinimum space :=
      UInt64.toNat_inj.1 (by omega)
    subst heq
    exact ⟨hsign, hwpayer, trivial, hwrite, hdata, howner, hpdata, hpowner,
      left, by omega, rfl⟩

/-- Less than the rent minimum is there: the payer adds the rest first. -/
theorem openAccount_short_iff (hne : payer ≠ target)
    (hempty : (v target).lamports ≠ 0)
    (hshort : (v target).lamports.toNat < (Ledger.rentMinimum space).toNat) :
    c.openAccount v payer target space owner = .ok w ↔
      c.Opens v payer target space owner w := by
  have hmissing :=
    Word.toNat_satSub (Ledger.rentMinimum space) (v target).lamports
  have hpos : 0 < Word.satSub (Ledger.rentMinimum space)
      (v target).lamports := by
    rw [Word.pos_iff, hmissing]
    omega
  have hnonzero := UInt64.pos_iff_ne_zero.1 hpos
  have hgo : c.openAccount v payer target space owner = (do
      let u ← granted (SystemProgram.transfer c.rights v payer target
        (Word.satSub (Ledger.rentMinimum space) (v target).lamports))
      let u ← granted (SystemProgram.allocate
        (c.rights.withSigner target) u target space)
      granted (SystemProgram.assign
        (c.rights.withSigner target) u target owner)) := by
    simp only [openAccount, if_neg hempty, if_pos hpos, ensure, ne_eq, hne,
      not_false_eq_true, if_true]
    rfl
  rw [hgo, bind_eq_ok_iff]
  simp only [granted, mapError_eq_ok_iff, SystemProgram.transfer_eq_ok_iff hne,
    hnonzero, or_false]
  constructor
  · intro h
    obtain ⟨_, ⟨hsign, hwpayer, _, hpdata, hpowner, left, sum, hleft, hsum,
      rfl⟩, hrest⟩ := h
    obtain ⟨hwrite, hdata, howner, rfl⟩ :=
      (allocate_assign_eq_ok_iff (Rights.signs_withSigner_self _ _)).1 hrest
    rw [View.put_self] at hdata howner
    refine ⟨hwrite, hdata, howner, fun _ => ⟨hsign, hwpayer, hpdata, hpowner⟩,
      left, sum, by omega, by omega, ?_⟩
    rw [View.put_self, View.put_put]
  · intro h
    obtain ⟨hwrite, hdata, howner, hpayer, left, funded, hfunded, hleft, rfl⟩ :=
      h
    obtain ⟨hsign, hwpayer, hpdata, hpowner⟩ := hpayer hshort
    refine ⟨_, ⟨hsign, hwpayer, hwrite, hpdata, hpowner, left, funded,
      by omega, by omega, rfl⟩, ?_⟩
    refine (allocate_assign_eq_ok_iff (Rights.signs_withSigner_self _ _)).2 ?_
    rw [View.put_self, View.put_put]
    exact ⟨hwrite, hdata, howner, rfl⟩

/-- The rent minimum is there already: nobody pays. -/
theorem openAccount_full_iff (hne : payer ≠ target)
    (hempty : (v target).lamports ≠ 0)
    (hfull : (Ledger.rentMinimum space).toNat ≤ (v target).lamports.toNat) :
    c.openAccount v payer target space owner = .ok w ↔
      c.Opens v payer target space owner w := by
  have hmissing :=
    Word.toNat_satSub (Ledger.rentMinimum space) (v target).lamports
  have hnone : ¬ 0 < Word.satSub (Ledger.rentMinimum space)
      (v target).lamports := by
    rw [Word.pos_iff, hmissing]
    omega
  have hgo : c.openAccount v payer target space owner = (do
      let u ← granted (SystemProgram.allocate
        (c.rights.withSigner target) v target space)
      granted (SystemProgram.assign
        (c.rights.withSigner target) u target owner)) := by
    simp only [openAccount, if_neg hempty, if_neg hnone, ensure, ne_eq, hne,
      not_false_eq_true, if_true]
    rfl
  rw [hgo, allocate_assign_eq_ok_iff (Rights.signs_withSigner_self _ _)]
  constructor
  · intro h
    obtain ⟨hwrite, hdata, howner, rfl⟩ := h
    refine ⟨hwrite, hdata, howner, fun h => absurd h (by omega),
      (v payer).lamports, (v target).lamports, by omega, rfl, ?_⟩
    rw [View.put_get]
  · intro h
    obtain ⟨hwrite, hdata, howner, _, left, funded, hfunded, hleft, rfl⟩ := h
    have hf : funded = (v target).lamports := UInt64.toNat_inj.1 (by omega)
    have hl : left = (v payer).lamports := UInt64.toNat_inj.1 (by omega)
    subst hf hl
    refine ⟨hwrite, hdata, howner, ?_⟩
    rw [View.put_get]

/-- Who opens an account brings its lamports up to the rent minimum. -/
theorem openAccount_eq_ok_iff (hne : payer ≠ target)
    (hrent : Ledger.rentMinimum space ≠ 0) :
    c.openAccount v payer target space owner = .ok w ↔
      c.Opens v payer target space owner w := by
  by_cases hempty : (v target).lamports = 0
  · exact openAccount_empty_iff hne hrent hempty
  · rcases Nat.lt_or_ge (v target).lamports.toNat
      (Ledger.rentMinimum space).toNat with h | h
    · exact openAccount_short_iff hne hempty h
    · exact openAccount_full_iff hne hempty h

/-- An account that was just opened holds its rent. -/
theorem Opens.holdsRent (h : c.Opens v payer target space owner w)
    (role : Role) :
    Call.holdsRent w target role = .ok () := by
  obtain ⟨left, funded, hfunded, _, rfl⟩ := h.view
  refine ensure_eq_ok_iff.2 ?_
  rw [View.put_self, List.length_replicate, UInt64.le_iff_toNat_le, hfunded]
  exact Nat.le_max_right _ _

/-- Whoever has enough can open an account where nothing stands, and this is
what is seen then. -/
theorem exists_opens (space : Nat) (owner : Key) (hne : payer ≠ target)
    (hsigned : c.rights.signs payer) (hwpayer : c.rights.writes payer)
    (hwtarget : c.rights.writes target)
    (hpayer : (v payer).owner = Key.system ∧ (v payer).data = [])
    (hfree : (v target).owner = Key.system ∧ (v target).data = [])
    (henough : max (v target).lamports.toNat (Ledger.rentMinimum space).toNat
      ≤ (v payer).lamports.toNat + (v target).lamports.toNat) :
    ∃ (w : View) (left funded : UInt64), c.Opens v payer target space owner w
      ∧ funded.toNat
        = max (v target).lamports.toNat (Ledger.rentMinimum space).toNat
      ∧ (v payer).lamports.toNat + (v target).lamports.toNat
        = left.toNat + funded.toNat
      ∧ w payer = { v payer with lamports := left }
      ∧ w target = ⟨funded, owner, List.replicate space 0⟩
      ∧ ∀ k, k ≠ payer → k ≠ target → w k = v k := by
  have hpayerFits := (v payer).lamports.toNat_lt_size
  have htargetFits := (v target).lamports.toNat_lt_size
  have hrentFits := (Ledger.rentMinimum space).toNat_lt_size
  have hfundedFits :
      max (v target).lamports.toNat (Ledger.rentMinimum space).toNat
        < UInt64.size := by omega
  have hleftFits :
      (v payer).lamports.toNat + (v target).lamports.toNat
          - max (v target).lamports.toNat (Ledger.rentMinimum space).toNat
        < UInt64.size := by omega
  obtain ⟨funded, hfunded⟩ := Word.exists_toNat_eq hfundedFits
  obtain ⟨left, hleft⟩ := Word.exists_toNat_eq hleftFits
  have hsum : (v payer).lamports.toNat + (v target).lamports.toNat
    = left.toNat + funded.toNat := by omega
  exact ⟨(v.put payer { v payer with lamports := left }).put target
      ⟨funded, owner, List.replicate space 0⟩, left, funded,
    ⟨hwtarget, hfree.2, hfree.1, fun _ => ⟨hsigned, hwpayer, hpayer.2,
      hpayer.1⟩, left, funded, hfunded, hsum, rfl⟩,
    hfunded, hsum, (View.put_of_ne _ hne _).trans (View.put_self _ _ _),
    View.put_self _ _ _,
    fun k hkp hkt => (View.put_of_ne _ hkt _).trans (View.put_of_ne _ hkp _)⟩

end

end Call

end HouseDice
