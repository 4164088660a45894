import HouseDice.Call.Opening

/-!
# What the system program grants

Each call of the system program is pinned down by one equivalence: the rights
and balances without which it refuses, and the one view that it leaves. A
transfer between two accounts writes both balances; the sums are stated over
the natural numbers, where nothing wraps. A transfer from an account to itself
is left out on purpose: no caller below can be made to ask for one, because one
end is always an account that nobody can sign for.
-/

namespace HouseDice

namespace View

@[simp]
theorem put_self (v : View) (k : Key) (a : Account) : v.put k a k = a :=
  if_pos rfl

theorem put_of_ne (v : View) {j k : Key} (h : j ≠ k) (a : Account) :
    v.put k a j = v j := if_neg h

@[simp]
theorem put_put (v : View) (k : Key) (a b : Account) :
    (v.put k a).put k b = v.put k b := by
  funext j
  by_cases hj : j = k
  · rw [hj, put_self, put_self]
  · rw [put_of_ne _ hj, put_of_ne _ hj, put_of_ne _ hj]

theorem put_comm (v : View) {j k : Key} (hne : j ≠ k) (a b : Account) :
    (v.put j a).put k b = (v.put k b).put j a := by
  funext i
  by_cases hj : i = j
  · rw [hj, put_of_ne _ hne, put_self, put_self]
  · by_cases hk : i = k
    · rw [hk, put_self, put_of_ne _ hne.symm, put_self]
    · rw [put_of_ne _ hk, put_of_ne _ hj, put_of_ne _ hj, put_of_ne _ hk]

theorem put_get (v : View) (k : Key) : v.put k (v k) = v := by
  funext j
  by_cases hj : j = k
  · rw [hj, put_self]
  · rw [put_of_ne _ hj]

end View

namespace SystemProgram

theorem transfer_eq_ok_iff {r : Rights} {v w : View} {source target : Key}
    {amount : UInt64} (hne : source ≠ target) :
    transfer r v source target amount = .ok w ↔
      r.signs source ∧ r.writes source ∧ r.writes target ∧ (v source).data = []
        ∧ ((v source).owner = Key.system ∨ amount = 0)
        ∧ ∃ left sum, (v source).lamports.toNat = left.toNat + amount.toNat
          ∧ sum.toNat = (v target).lamports.toNat + amount.toNat
          ∧ w = (v.put source { v source with lamports := left }).put target
            { v target with lamports := sum } := by
  have htarget : ∀ a : Account, v.put source a target = v target :=
    fun a => if_neg hne.symm
  simp only [transfer, bind_eq_ok_iff, ensure_eq_ok_iff, demand_eq_ok_iff,
    exists_const, htarget, Word.sub?_eq_some_iff, Word.add?_eq_some_iff, pure,
    Except.pure, Except.ok.injEq]
  constructor
  · intro h
    obtain ⟨⟨hsign, hsource, hwrite⟩, hdata, left, hleft, howner, sum, hsum,
      hw⟩ := h
    exact ⟨hsign, hsource, hwrite, hdata, howner, left, sum, hleft, hsum,
      hw.symm⟩
  · intro h
    obtain ⟨hsign, hsource, hwrite, hdata, howner, left, sum, hleft, hsum,
      hw⟩ := h
    exact ⟨⟨hsign, hsource, hwrite⟩, hdata, left, hleft, howner, sum, hsum,
      hw.symm⟩

/-- Whoever has enough can pay anybody who has room for it. -/
theorem transfer_of_enough {r : Rights} {v : View} {source target : Key}
    (amount : UInt64) (hne : source ≠ target) (hsigned : r.signs source)
    (hwsource : r.writes source) (hwtarget : r.writes target)
    (hsource : (v source).owner = Key.system ∧ (v source).data = [])
    (henough : amount.toNat ≤ (v source).lamports.toNat)
    (hfits : (v target).lamports.toNat + amount.toNat < UInt64.size) :
    ∃ w, transfer r v source target amount = .ok w := by
  have hlt := (v source).lamports.toNat_lt_size
  have hleftFits : (v source).lamports.toNat - amount.toNat < UInt64.size := by
    omega
  obtain ⟨left, hleft⟩ := Word.exists_toNat_eq hleftFits
  obtain ⟨sum, hsum⟩ := Word.exists_toNat_eq hfits
  exact ⟨_, (transfer_eq_ok_iff hne).2 ⟨hsigned, hwsource, hwtarget, hsource.2,
    .inl hsource.1, left, sum, by omega, hsum, rfl⟩⟩

theorem allocate_eq_ok_iff {r : Rights} {v w : View} {target : Key}
    {space : Nat} :
    allocate r v target space = .ok w ↔
      r.signs target ∧ r.writes target ∧ (v target).data = []
        ∧ (v target).owner = Key.system
        ∧ w = v.put target
          { v target with data := List.replicate space 0 } := by
  simp only [allocate, bind_eq_ok_iff, ensure_eq_ok_iff, exists_const, pure,
    Except.pure, Except.ok.injEq]
  constructor
  · intro h
    obtain ⟨⟨hsign, hwrite⟩, ⟨hdata, howner⟩, rfl⟩ := h
    exact ⟨hsign, hwrite, hdata, howner, rfl⟩
  · intro h
    obtain ⟨hsign, hwrite, hdata, howner, rfl⟩ := h
    exact ⟨⟨hsign, hwrite⟩, ⟨hdata, howner⟩, rfl⟩

/-- An account of the system program goes to anybody, the system program
included. -/
theorem assign_eq_ok_iff {r : Rights} {v w : View} {target owner : Key}
    (hsystem : (v target).owner = Key.system) :
    assign r v target owner = .ok w ↔
      r.signs target ∧ r.writes target
        ∧ w = v.put target { v target with owner } := by
  simp only [assign, bind_eq_ok_iff, ensure_eq_ok_iff, exists_const, hsystem,
    pure, Except.pure]
  by_cases howner : Key.system = owner
  · have hput : v.put target { v target with owner } = v := by
      rw [← howner, ← hsystem]
      exact v.put_get target
    rw [if_pos howner, hput, Except.ok.injEq]
    constructor
    · intro h
      obtain ⟨⟨hsign, hwrite⟩, rfl⟩ := h
      exact ⟨hsign, hwrite, rfl⟩
    · intro h
      obtain ⟨hsign, hwrite, rfl⟩ := h
      exact ⟨⟨hsign, hwrite⟩, rfl⟩
  · simp only [if_neg howner, bind_eq_ok_iff, ensure_eq_ok_iff, exists_const,
      Except.ok.injEq]
    constructor
    · intro h
      obtain ⟨⟨hsign, hwrite⟩, _, rfl⟩ := h
      exact ⟨hsign, hwrite, rfl⟩
    · intro h
      obtain ⟨hsign, hwrite, rfl⟩ := h
      exact ⟨⟨hsign, hwrite⟩, trivial, rfl⟩

/-- A new account is paid for in full by somebody else. -/
theorem createAccount_eq_ok_iff {r : Rights} {v w : View}
    {payer target owner : Key} {lamports : UInt64} {space : Nat}
    (hne : payer ≠ target) (hempty : (v target).lamports = 0)
    (hpaid : lamports ≠ 0) :
    createAccount r v payer target lamports space owner = .ok w ↔
      r.signs payer ∧ r.writes payer ∧ r.signs target ∧ r.writes target
        ∧ (v target).data = [] ∧ (v target).owner = Key.system
        ∧ (v payer).data = [] ∧ (v payer).owner = Key.system
        ∧ ∃ left, (v payer).lamports.toNat = left.toNat + lamports.toNat
          ∧ w = (v.put payer { v payer with lamports := left }).put target
            ⟨lamports, owner, List.replicate space 0⟩ := by
  -- The account as `allocate` and `assign` leave it, and what the transfer then
  -- asks of it.
  have htransfer : ∀ r w,
      transfer r (v.put target ⟨0, owner, List.replicate space 0⟩)
          payer target lamports = .ok w ↔
        r.signs payer ∧ r.writes payer ∧ r.writes target
        ∧ (v payer).data = [] ∧ (v payer).owner = Key.system ∧ ∃ left,
          (v payer).lamports.toNat = left.toNat + lamports.toNat
          ∧ w = (v.put payer { v payer with lamports := left }).put target
            ⟨lamports, owner, List.replicate space 0⟩ := by
    intro r w
    have hsum : ∀ sum : UInt64,
        sum.toNat = (0 : UInt64).toNat + lamports.toNat ↔ sum = lamports := by
      intro sum
      rw [UInt64.toNat_zero, Nat.zero_add, UInt64.toNat_inj]
    rw [transfer_eq_ok_iff hne]
    simp only [View.put_self, View.put_of_ne _ hne, View.put_comm _ hne.symm,
      View.put_put, hsum, hpaid, or_false, exists_eq_left, exists_and_left]
  simp only [createAccount, bind_eq_ok_iff, ensure_eq_ok_iff, exists_const,
    allocate_eq_ok_iff]
  constructor
  · intro h
    obtain ⟨⟨hpayer, hwpayer, htarget, hwtarget⟩, _, _,
      ⟨_, _, hdata, howner, rfl⟩, _, hassign, hw⟩ := h
    rw [assign_eq_ok_iff (by rw [View.put_self]; exact howner), View.put_self,
      View.put_put, hempty] at hassign
    obtain ⟨_, _, rfl⟩ := hassign
    obtain ⟨_, _, _, hpdata, hpowner, left, hleft, rfl⟩ := (htransfer _ _).1 hw
    exact ⟨hpayer, hwpayer, htarget, hwtarget, hdata, howner, hpdata, hpowner,
      left, hleft, rfl⟩
  · intro h
    obtain ⟨hpayer, hwpayer, htarget, hwtarget, hdata, howner, hpdata, hpowner,
      left, hleft, rfl⟩ := h
    refine ⟨⟨hpayer, hwpayer, htarget, hwtarget⟩, hempty, _,
      ⟨htarget, hwtarget, hdata, howner, rfl⟩,
      v.put target ⟨0, owner, List.replicate space 0⟩, ?_, ?_⟩
    · rw [assign_eq_ok_iff (by rw [View.put_self]; exact howner), View.put_self,
        View.put_put, hempty]
      exact ⟨htarget, hwtarget, rfl⟩
    · exact (htransfer _ _).2 ⟨hpayer, hwpayer, hwtarget, hpdata, hpowner, left,
        hleft, rfl⟩

end SystemProgram

end HouseDice
