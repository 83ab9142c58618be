import BitcoreWallet.BtcChain.Select

namespace BitcoreWallet

section TopSum

theorem sum_take_succ_le {c : ℕ} :
    ∀ (l : List ℕ) (j : ℕ), (∀ x ∈ l, x ≤ c) → (l.take (j + 1)).sum ≤ c + (l.take j).sum
  | [], _, _ => by simp
  | x :: l, 0, h => by simpa using h x (List.mem_cons_self _ _)
  | x :: l, j + 1, h => by
    have := sum_take_succ_le l j fun y hy => h y (List.mem_cons_of_mem _ hy)
    simp only [List.take_succ_cons, List.sum_cons]
    omega

theorem sum_le_sum_take_of_subperm :
    ∀ {L T : List ℕ}, L.Pairwise (· ≥ ·) → T.Subperm L → T.sum ≤ (L.take T.length).sum
  | [], T, _, hT => by simp [List.subperm_nil.1 hT]
  | a :: L, T, hL, hT => by
    rw [List.pairwise_cons] at hL
    by_cases ha : a ∈ T
    · have hperm := List.perm_cons_erase ha
      have ih := sum_le_sum_take_of_subperm hL.2 (by simpa using hT.erase a)
      rw [hperm.sum_eq, hperm.length_eq, List.sum_cons, List.length_cons, List.take_succ_cons,
        List.sum_cons]
      omega
    · have ih := sum_le_sum_take_of_subperm hL.2
        (by simpa [List.erase_of_not_mem ha] using hT.erase a)
      cases h : T.length with
      | zero => simp [List.length_eq_zero.1 h]
      | succ j =>
        rw [h] at ih
        have := sum_take_succ_le L j hL.1
        simp only [List.take_succ_cons, List.sum_cons]
        omega

end TopSum

namespace SelectEnv

variable (e : SelectEnv)

/-- Inputs that pay the amount with `slack` to spare at their fee, under the size cap. -/
def Feasible (slack : ℚ) (T : List Utxo) : Prop :=
  (e.txpAmount : ℚ) + slack ≤
      (T.map fun u => (u.satoshis : ℚ) - e.feePerInput).sum - e.baseTxpFee ∧
    (e.baseTxpSize : ℚ) + T.length * e.sizePerInput ≤ 1000 * Defaults.maxTxSizeInKbBtc

instance (slack : ℚ) (T : List Utxo) : Decidable (e.Feasible slack T) :=
  inferInstanceAs (Decidable (_ ∧ _))

section Loop

variable {e} {U N : ℕ}

theorem selectLoop_selected (hasBigInputs : Bool) :
    ∀ (l : List Utxo) (s : SelectState),
      ∃ j, (e.selectLoop hasBigInputs s l).selected = s.selected ++ l.take j
  | [], s => ⟨0, by simp⟩
  | x :: xs, s => by
    obtain ⟨f, err, h, -⟩ := e.selectStep_fst hasBigInputs s x
    rw [selectLoop_cons]
    split_ifs
    · obtain ⟨j, hj⟩ := selectLoop_selected hasBigInputs xs (e.selectStep hasBigInputs s x).1
      exact ⟨j + 1, by rw [hj, h]; simp⟩
    · exact ⟨1, by rw [h]; simp⟩

theorem selectStep_snd_false (s : SelectState) (input : Utxo) :
    (e.selectStep false s input).2 = true ↔
      ¬(Defaults.maxTxSizeInKbBtc : ℚ) < fl (fl (e.baseTxpSize +
          fl (((s.selected.length + 1 : ℕ) : ℚ) * e.sizePerInput)) / 1000) ∧
        fl (s.netTotal + fl (input.satoshis - e.feePerInput)) <
          e.fullTxpAmountFor (e.selectFee (s.selected.length + 1)) := by
  simp only [selectStep, List.length_append, List.length_singleton, Bool.false_eq_true,
    false_and, if_false]
  split_ifs <;> simp_all

/-- A selection under the size cap in exact arithmetic is under it in doubles. -/
theorem txpSize_within_cap (hi : 0 ≤ e.sizePerInput) (hbase : 0 ≤ e.baseTxpSize) {k : ℕ}
    (hk : (e.baseTxpSize : ℚ) + k * e.sizePerInput ≤ 1000 * Defaults.maxTxSizeInKbBtc) :
    ¬(Defaults.maxTxSizeInKbBtc : ℚ) <
      fl (fl (e.baseTxpSize + fl (k * e.sizePerInput)) / 1000) := by
  simp only [Defaults.maxTxSizeInKbBtc, Nat.cast_ofNat] at hk ⊢
  have hks := mul_nonneg (Nat.cast_nonneg k : (0 : ℚ) ≤ k) hi
  have hcap : e.baseTxpSize ≤ 100000 := by
    exact_mod_cast (show (e.baseTxpSize : ℚ) ≤ 100000 by linarith)
  have h1 : fl (k * e.sizePerInput) ≤ ((100000 - e.baseTxpSize : ℤ) : ℚ) :=
    fl_le_intCast (abs_lt.2 ⟨by omega, by omega⟩) (by push_cast; linarith)
  have h2 : fl (e.baseTxpSize + fl (k * e.sizePerInput)) ≤ ((100000 : ℤ) : ℚ) :=
    fl_le_intCast (by norm_num) (by push_cast at h1 ⊢; linarith)
  have h3 : fl (fl (e.baseTxpSize + fl (k * e.sizePerInput)) / 1000) ≤ ((100 : ℤ) : ℚ) :=
    fl_le_intCast (by norm_num) (by rw [div_le_iff₀ (by norm_num)]; push_cast at h2 ⊢; linarith)
  push_cast at h3
  exact not_lt.2 h3

theorem selectLoop_reaches (hesc : e.escrowAmount = 0) (hb : 0 ≤ e.baseTxpFee)
    (hf : 0 ≤ e.feePerInput) (hi : 0 ≤ e.sizePerInput) (hbase : 0 ≤ e.baseTxpSize)
    (hprec : e.WithinPrecision U N) :
    ∀ (l : List Utxo) (s : SelectState) (m : ℕ), e.SelectInv U N s →
      s.total + (l.map (·.satoshis)).sum ≤ U → s.selected.length + l.length ≤ N →
      0 < m → m ≤ l.length →
      (e.txpAmount : ℚ) + 1 / 8 ≤
        e.exactNet s + ((l.take m).map fun u => (u.satoshis : ℚ) - e.feePerInput).sum →
      (e.baseTxpSize : ℚ) + ((s.selected.length + m : ℕ) : ℚ) * e.sizePerInput ≤
        1000 * Defaults.maxTxSizeInKbBtc →
      (e.txpAmount : ℚ) ≤ (e.selectLoop false s l).netTotal ∧
        (e.selectLoop false s l).selected.length ≤ s.selected.length + m
  | [], _, _, _, _, _, hm, hl, _, _ => absurd hl (by simp only [List.length_nil]; omega)
  | x :: xs, s, m, hs, hU, hN, hm, hl, hnet, hsize => by
    simp only [List.map_cons, List.sum_cons, List.length_cons] at hU hN hl
    obtain ⟨f, err, h, -⟩ := e.selectStep_fst false s x
    have hs' := selectInv_selectStep hb hf hprec false hs x (by omega) (by omega)
    have hfull (fee : ℤ) : (e.fullTxpAmountFor fee : ℚ) = e.txpAmount := by
      simp [fullTxpAmountFor, hesc]
    have hex : e.exactNet (e.selectStep false s x).1 =
        e.exactNet s + ((x.satoshis : ℚ) - e.feePerInput) := by
      rw [h]; simp only [exactNet, List.length_append, List.length_singleton]; push_cast; ring
    -- the new state's net total is within an eighth of a satoshi of its exact value
    have hnear := abs_le.1 hs'.netTotal_near
    have hrun := run_error_le hb hf hprec hs'.length_le
    have hcap := txpSize_within_cap hi hbase (k := s.selected.length + 1) (le_trans (by
      have : ((s.selected.length + 1 : ℕ) : ℚ) ≤ ((s.selected.length + m : ℕ) : ℚ) := by
        exact_mod_cast (by omega)
      linarith only [mul_le_mul_of_nonneg_right this hi]) hsize)
    obtain ⟨k, rfl⟩ : ∃ k, m = k + 1 := ⟨m - 1, by omega⟩
    simp only [List.take_succ_cons, List.map_cons, List.sum_cons] at hnet
    rw [selectLoop_cons]
    have hnt : (e.selectStep false s x).1.netTotal =
        fl (s.netTotal + fl (x.satoshis - e.feePerInput)) := by rw [h]
    have hlen : (e.selectStep false s x).1.selected.length = s.selected.length + 1 := by
      rw [h, List.length_append, List.length_singleton]
    split_ifs with hgo
    · rw [selectStep_snd_false, hfull] at hgo
      obtain ⟨-, hlt⟩ := hgo
      cases k with
      | zero =>
        -- the input reaches the target: the loop cannot go on
        simp only [List.take_zero, List.map_nil, List.sum_nil, add_zero] at hnet
        exfalso
        linarith only [hnet, hnear.1, hrun, hlt, hex, hnt]
      | succ k =>
        have hU' : (e.selectStep false s x).1.total + (xs.map (·.satoshis)).sum ≤ U := by
          rw [h]; dsimp only; omega
        have ih := selectLoop_reaches hesc hb hf hi hbase hprec xs (e.selectStep false s x).1
          (k + 1) hs' hU' (by omega) (by omega) (by omega) (by rw [hex]; linarith only [hnet])
          (by rw [hlen]; simpa [Nat.add_assoc, Nat.add_comm 1] using hsize)
        rw [hlen] at ih
        simpa [Nat.add_assoc, Nat.add_comm 1] using ih
    · rw [Bool.not_eq_true, ← Bool.not_eq_true, selectStep_snd_false, hfull] at hgo
      rw [h]
      refine ⟨?_, by simp⟩
      by_contra hlt
      exact hgo ⟨hcap, by simpa using hlt⟩

theorem selectLoop_fullTxpAmount (hesc : e.escrowAmount = 0) (hasBigInputs : Bool) :
    ∀ (l : List Utxo) (s : SelectState), s.fullTxpAmount = e.txpAmount →
      (e.selectLoop hasBigInputs s l).fullTxpAmount = e.txpAmount
  | [], _, hs => hs
  | x :: xs, s, _ => by
    obtain ⟨f, err, h, -⟩ := e.selectStep_fst hasBigInputs s x
    have hstep : (e.selectStep hasBigInputs s x).1.fullTxpAmount = e.txpAmount := by
      simp [h, fullTxpAmountFor, hesc]
    rw [selectLoop_cons]
    split_ifs
    exacts [selectLoop_fullTxpAmount hesc hasBigInputs xs _ hstep, hstep]

theorem selected_ne_nil {s : SelectState} (hs : e.SelectInv U N s) (hb : 0 ≤ e.baseTxpFee)
    (hpos : 0 < e.txpAmount) (h : (e.txpAmount : ℚ) ≤ s.netTotal) : s.selected ≠ [] := by
  rintro hnil
  have hnear := hs.netTotal_near
  have : (0 : ℚ) < e.txpAmount := by exact_mod_cast hpos
  simp only [exactNet, hs.total_eq, hnil, List.length_nil, List.map_nil, List.sum_nil,
    Nat.cast_zero, zero_mul, abs_nonpos_iff, sub_eq_zero] at hnear
  linarith

end Loop

theorem selectFinish_of_reached {s : SelectState} (bigInputs : List Utxo)
    (h : ¬s.netTotal < s.fullTxpAmount) (hne : s.selected ≠ []) :
    e.selectFinish s bigInputs = .ok (s.selected, s.fee) := by
  simp [selectFinish, h, hne]

theorem selectFinish_of_big {s : SelectState} (b : Utxo) (bs : List Utxo)
    (h : s.netTotal < s.fullTxpAmount) :
    e.selectFinish s (b :: bs) =
      .ok ([b], some (jsRound (fl (e.baseTxpFee + e.feePerInput)))) := by
  simp [selectFinish, h, useBigInput]

theorem sum_net (l : List Utxo) :
    (l.map fun u => (u.satoshis : ℚ) - e.feePerInput).sum =
      ((l.map (·.satoshis)).sum : ℕ) - l.length * e.feePerInput := by
  induction l with
  | nil => simp
  | cons u l ih =>
    simp only [List.map_cons, List.sum_cons, ih, List.length_cons]
    push_cast
    ring

theorem sum_net_le_filter (l : List Utxo) :
    (l.map fun u => (u.satoshis : ℚ) - e.feePerInput).sum ≤
      ((l.filter fun u => e.feePerInput < u.satoshis).map
        fun u => (u.satoshis : ℚ) - e.feePerInput).sum := by
  induction l with
  | nil => simp
  | cons u l ih =>
    by_cases hu : e.feePerInput < u.satoshis
    · simp only [List.filter_cons, hu, decide_True, if_true, List.map_cons, List.sum_cons]
      linarith
    · simp only [List.filter_cons, hu, decide_False, Bool.false_eq_true, if_false,
        List.map_cons, List.sum_cons]
      linarith [not_lt.1 hu]

theorem sortByRequired_nil_sorted (key : Utxo → ℤ) (utxos : List Utxo) :
    (sortByRequired [] key utxos).Pairwise fun a b => key a ≤ key b := by
  have htot : IsTotal Utxo fun a b => key a ≤ key b := ⟨fun a b => le_total (key a) (key b)⟩
  have htrans : IsTrans Utxo fun a b => key a ≤ key b := ⟨fun _ _ _ => le_trans⟩
  simpa [sortByRequired] using List.sorted_insertionSort (fun a b => key a ≤ key b) utxos

section Feasible

variable {e} {U N : ℕ}

theorem Feasible.filter (hi : 0 ≤ e.sizePerInput) {slack : ℚ} {T : List Utxo}
    (h : e.Feasible slack T) :
    e.Feasible slack (T.filter fun u => decide (e.feePerInput < (u.satoshis : ℚ))) := by
  have hlen : ((T.filter fun u => decide (e.feePerInput < (u.satoshis : ℚ))).length : ℚ) ≤
      T.length := by exact_mod_cast List.length_filter_le _ _
  exact ⟨h.1.trans (by linarith [e.sum_net_le_filter T]),
    le_trans (by linarith [mul_le_mul_of_nonneg_right hlen hi]) h.2⟩

/-- The greedy core: the loop reaches the target in as few turns as any feasible set. -/
theorem selectLoop_fewest (hesc : e.escrowAmount = 0) (hb : 0 ≤ e.baseTxpFee)
    (hf : 0 ≤ e.feePerInput) (hi : 0 ≤ e.sizePerInput) (hbase : 0 ≤ e.baseTxpSize)
    (hprec : e.WithinPrecision U N) {smalls T : List Utxo}
    (hsorted : smalls.Pairwise fun a b => -(a.satoshis : ℤ) ≤ -(b.satoshis : ℤ))
    (hT : T.Subperm smalls) (hU : (smalls.map (·.satoshis)).sum ≤ U) (hN : smalls.length ≤ N)
    (hfeas : e.Feasible 1 T) :
    (e.txpAmount : ℚ) ≤ (e.selectLoop false e.selectStart smalls).netTotal ∧
      (e.selectLoop false e.selectStart smalls).selected.length ≤ T.length := by
  have hnet := hfeas.1
  rw [e.sum_net] at hnet
  have hm : 0 < T.length := by
    by_contra h0
    rw [List.length_eq_zero.1 (show T.length = 0 by omega)] at hnet
    have : (0 : ℚ) ≤ e.txpAmount := Nat.cast_nonneg _
    simp at hnet
    linarith
  -- the first `|T|` inputs are worth at least `T`
  have htop := @sum_le_sum_take_of_subperm (smalls.map (·.satoshis)) (T.map (·.satoshis))
    (List.pairwise_map.2 (hsorted.imp fun h => by omega)) (subperm_map _ hT)
  rw [List.length_map, ← List.map_take] at htop
  have htopq : (((T.map (·.satoshis)).sum : ℕ) : ℚ) ≤
      ((((smalls.take T.length).map (·.satoshis)).sum : ℕ) : ℚ) := by exact_mod_cast htop
  have h := selectLoop_reaches hesc hb hf hi hbase hprec smalls e.selectStart T.length
    selectInv_selectStart (by simpa [selectStart] using hU) (by simpa [selectStart] using hN) hm
    hT.length_le (by
      rw [e.sum_net, List.length_take, min_eq_left hT.length_le]
      simp only [exactNet, selectStart, List.length_nil, Nat.cast_zero, zero_mul, add_zero]
      linarith) (by simpa [selectStart] using hfeas.2)
  simpa [selectStart] using h

theorem select_prechecks (hb : 0 ≤ e.baseTxpFee) (hf : 0 ≤ e.feePerInput)
    (hprec : e.WithinPrecision U N) {utxos F T : List Utxo} (hT : T.Subperm F)
    (hF : F.Sublist utxos) (hU : (F.map (·.satoshis)).sum ≤ U) (hN : F.length ≤ N)
    (hfeas : e.Feasible 1 T) :
    ¬(utxos.map (·.satoshis)).sum < e.txpAmount ∧
      ¬fl (((F.map (·.satoshis)).sum : ℕ) - fl (e.baseTxpFee - fl (F.length * e.feePerInput))) <
        e.txpAmount := by
  have hnet := hfeas.1
  rw [e.sum_net] at hnet
  have hsum : (((T.map (·.satoshis)).sum : ℕ) : ℚ) ≤ ((F.map (·.satoshis)).sum : ℕ) := by
    exact_mod_cast Subperm.sum_le_sum (subperm_map _ hT)
  have hT0 := mul_nonneg (Nat.cast_nonneg T.length : (0 : ℚ) ≤ T.length) hf
  have hF0 := mul_nonneg (Nat.cast_nonneg F.length : (0 : ℚ) ≤ F.length) hf
  have ht0 : (0 : ℚ) ≤ e.txpAmount := Nat.cast_nonneg _
  constructor
  · have hle : (F.map (·.satoshis)).sum ≤ (utxos.map (·.satoshis)).sum :=
      (hF.map _).sum_le_sum fun _ _ => Nat.zero_le _
    have : (e.txpAmount : ℚ) ≤ ((F.map (·.satoshis)).sum : ℕ) := by linarith
    have : e.txpAmount ≤ (F.map (·.satoshis)).sum := by exact_mod_cast this
    omega
  · -- `netValueInUtxos` is within three roundings of its exact value
    have hρ := run_error_le hb hf hprec (le_refl N)
    have hρ0 := roundingError_nonneg (U := U) (N := N) hb hf
    have hN1 := roundingError_le hprec
    have hUq : (((F.map (·.satoshis)).sum : ℕ) : ℚ) ≤ U := by exact_mod_cast hU
    have hFN : (F.length : ℚ) * e.feePerInput ≤ N * e.feePerInput :=
      mul_le_mul_of_nonneg_right (by exact_mod_cast hN) hf
    have hNρ := mul_nonneg (Nat.cast_nonneg N : (0 : ℚ) ≤ N) hρ0
    have hV0 : (0 : ℚ) ≤ (((F.map (·.satoshis)).sum : ℕ) : ℚ) := Nat.cast_nonneg _
    have hM : e.magnitude U N = 2 * U + e.baseTxpFee + N * e.feePerInput + 1 := rfl
    have h1 := abs_le.1 (abs_fl_sub_le_roundingError (e := e) (U := U) (N := N)
      (x := F.length * e.feePerInput)
      (abs_le.2 ⟨by linarith only [hM, hF0, hb, hFN, hUq, hV0],
        by linarith only [hM, hFN, hb, hUq, hV0]⟩))
    have h2 := abs_le.1 (abs_fl_sub_le_roundingError (e := e) (U := U) (N := N)
      (x := e.baseTxpFee - fl (F.length * e.feePerInput))
      (abs_le.2 ⟨by linarith only [hM, h1.2, hb, hFN, hUq, hV0, hN1, hNρ],
        by linarith only [hM, h1.1, hF0, hFN, hUq, hV0, hN1, hNρ]⟩))
    have h3 := abs_le.1 (abs_fl_sub_le_roundingError (e := e) (U := U) (N := N)
      (x := (((F.map (·.satoshis)).sum : ℕ) : ℚ) -
        fl (e.baseTxpFee - fl (F.length * e.feePerInput)))
      (abs_le.2 ⟨by linarith only [hM, h1.1, h2.2, hF0, hb, hFN, hUq, hV0, hN1, hNρ],
        by linarith only [hM, h1.2, h2.1, hb, hF0, hFN, hUq, hV0, hN1, hNρ]⟩))
    rw [not_lt]
    linarith only [hnet, hsum, hT0, hF0, h1.1, h2.2, h3.1, hN1, hNρ]

end Feasible

theorem select_fewest_inputs_env (hesc : e.escrowAmount = 0) (hrbf : e.replaceTxByFee = false)
    (hb : 0 ≤ e.baseTxpFee) (hf : 0 ≤ e.feePerInput) (hi : 0 ≤ e.sizePerInput)
    (hbase : 0 ≤ e.baseTxpSize) (hpos : 0 < e.txpAmount) {utxos requiredInputs T : List Utxo}
    (hprec : e.WithinPrecision (utxos.map (·.satoshis)).sum utxos.length)
    (hT : T.Subperm utxos) (hfeas : e.Feasible 1 T) :
    (∃ S f, e.select utxos requiredInputs = .ok (S, f)) ∧
      ((∀ u ∈ utxos, ¬e.bigInputThreshold < u.satoshis) →
        ∀ S f, e.select utxos requiredInputs = .ok (S, f) →
          S.Subperm utxos ∧ S.length ≤ T.length) := by
  set F := utxos.filter fun u => decide (e.feePerInput < (u.satoshis : ℚ)) with hF
  set T' := T.filter fun u => decide (e.feePerInput < (u.satoshis : ℚ))
  have hT'F : T'.Subperm F := hT.filter _
  have hFu : F.Sublist utxos := List.filter_sublist _
  have hFU : (F.map (·.satoshis)).sum ≤ (utxos.map (·.satoshis)).sum :=
    (hFu.map _).sum_le_sum fun _ _ => Nat.zero_le _
  have hfeas' := hfeas.filter hi
  have hlenT' : T'.length ≤ T.length := List.length_filter_le _ _
  obtain ⟨h1, h2⟩ := select_prechecks hb hf hprec hT'F hFu hFU hFu.length_le hfeas'
  simp only [select, hrbf, Bool.false_eq_true, and_false, if_false, List.not_mem_nil, false_or,
    h1, ← hF, h2]
  set bigs := sortByRequired [] (fun x => (x.satoshis : ℤ))
    (F.filter fun u => decide (e.bigInputThreshold < (u.satoshis : ℚ)))
  set smalls := sortByRequired [] (fun x => -(x.satoshis : ℤ))
    (F.filter fun u => decide ¬(e.bigInputThreshold < (u.satoshis : ℚ)))
  have hbigPerm : bigs.Perm (F.filter fun u => decide (e.bigInputThreshold < (u.satoshis : ℚ))) :=
    perm_sortByRequired _ _ _
  have hsmallSub : smalls.Subperm utxos :=
    (perm_sortByRequired _ _ _).subperm.trans ((List.filter_sublist _).trans hFu).subperm
  have hinv (hasBigInputs : Bool) :=
    selectInv_selectLoop hb hf hprec hasBigInputs smalls selectInv_selectStart
      (by simpa [selectStart] using Subperm.sum_le_sum (subperm_map _ hsmallSub))
      (by simpa [selectStart] using hsmallSub.length_le)
  have hfull (hasBigInputs : Bool) :=
    selectLoop_fullTxpAmount hesc hasBigInputs smalls e.selectStart rfl
  rcases hbig : bigs with _ | ⟨b, bs⟩
  case cons =>
    -- a big input is at hand: the loop's selection or the fallback
    simp only [List.isEmpty_cons, Bool.not_false]
    refine ⟨?_, fun hsmall => absurd ?_ (hsmall b ?_)⟩
    · by_cases hr : (e.selectLoop true e.selectStart smalls).netTotal <
          (e.selectLoop true e.selectStart smalls).fullTxpAmount
      · exact ⟨_, _, e.selectFinish_of_big b bs hr⟩
      · have hreach : (e.txpAmount : ℚ) ≤ (e.selectLoop true e.selectStart smalls).netTotal := by
          rw [hfull true] at hr
          push_cast at hr
          linarith
        exact ⟨_, _, e.selectFinish_of_reached _ hr (selected_ne_nil (hinv true) hb hpos hreach)⟩
    all_goals
      have hb' := (List.mem_filter.1 (hbigPerm.subset (hbig ▸ List.mem_cons_self b bs)))
    · simpa using hb'.2
    · exact hFu.subset hb'.1
  case nil =>
    -- no big input: every candidate is small, and the greedy loop reaches within `|T'|` turns
    simp only [List.isEmpty_nil, Bool.not_true]
    have hsmallPerm : smalls.Perm F := by
      rw [hbig] at hbigPerm
      refine (perm_sortByRequired _ _ _).trans ?_
      rw [List.filter_eq_self.2 fun u hu => by
        simpa using (List.filter_eq_nil_iff.1 (List.nil_perm.1 hbigPerm)) u hu]
    obtain ⟨hreach, hlen⟩ := selectLoop_fewest hesc hb hf hi hbase hprec
      (sortByRequired_nil_sorted _ _) (hT'F.trans hsmallPerm.symm.subperm)
      (Subperm.sum_le_sum (subperm_map _ hsmallSub)) hsmallSub.length_le hfeas'
    have hr : ¬(e.selectLoop false e.selectStart smalls).netTotal <
        (e.selectLoop false e.selectStart smalls).fullTxpAmount := by
      rw [hfull false]
      push_cast
      linarith
    have hres := e.selectFinish_of_reached [] hr (selected_ne_nil (hinv false) hb hpos hreach)
    refine ⟨⟨_, _, hres⟩, fun _ S f h => ?_⟩
    rw [hres] at h
    obtain ⟨rfl, -⟩ := Prod.mk.inj (Except.ok.inj h)
    obtain ⟨j, hj⟩ := selectLoop_selected false smalls e.selectStart
    refine ⟨?_, hlen.trans hlenT'⟩
    rw [hj]
    exact (List.take_sublist _ _).subperm.trans hsmallSub

/-- `select` succeeds when a set pays with a satoshi to spare, with no more inputs. -/
theorem select_fewest_inputs (c : BtcChain) {txp : TxProposal} {opts : SelectOpts}
    (hk : 0 ≤ txp.feePerKb) (hm : 0 ≤ c.sizeEstimationMargin)
    (hm' : 0 ≤ c.inputSizeEstimationMargin) (hesc : opts.instantAcceptanceEscrow.getD 0 = 0)
    (hrbf : txp.replaceTxByFee = false) (hpos : 0 < txp.getTotalAmount)
    {utxos requiredInputs T : List Utxo}
    (hprec : (c.selectEnv txp opts).WithinPrecision (utxos.map (·.satoshis)).sum utxos.length)
    (hT : T.Subperm utxos) (hfeas : (c.selectEnv txp opts).Feasible 1 T) :
    (∃ S f, (c.selectEnv txp opts).select utxos requiredInputs = .ok (S, f)) ∧
      ((∀ u ∈ utxos, ¬(c.selectEnv txp opts).bigInputThreshold < u.satoshis) →
        ∀ S f, (c.selectEnv txp opts).select utxos requiredInputs = .ok (S, f) →
          S.Subperm utxos ∧ S.length ≤ T.length ∧
            (c.selectEnv txp opts).baseTxpFee + S.length * (c.selectEnv txp opts).feePerInput ≤
              (c.selectEnv txp opts).baseTxpFee +
                T.length * (c.selectEnv txp opts).feePerInput) := by
  have hfees := c.selectEnv_fees_nonneg opts hk hm hm'
  obtain ⟨hok, hfew⟩ := select_fewest_inputs_env _ hesc hrbf hfees.1 hfees.2
    (BtcChain.getEstimatedSizeForSingleInput_nonneg txp
      ⟨Truthy opts.payProUrl, opts.instantAcceptanceEscrow⟩ hm')
    (BtcChain.getEstimatedSize_nonneg txp ⟨Truthy opts.payProUrl, opts.instantAcceptanceEscrow⟩
      hm hm')
    (by simpa [BtcChain.selectEnv, hesc] using hpos) hprec hT hfeas
  refine ⟨hok, fun hsmall S f h => ?_⟩
  obtain ⟨hS, hlen⟩ := hfew hsmall S f h
  have hlenq : (S.length : ℚ) ≤ T.length := by exact_mod_cast hlen
  exact ⟨hS, hlen, by linarith [mul_le_mul_of_nonneg_right hlenq hfees.2]⟩

theorem select_fewest_inputs_sample :
    (BtcChain.sampleChain.selectEnv sampleTxp ⟨none, none⟩).Feasible 1 [sampleSmallUtxo] ∧
    (∃ S f, (BtcChain.sampleChain.selectEnv sampleTxp ⟨none, none⟩).select
      [sampleFirstInput, sampleSmallUtxo, sampleLastInput] [] = .ok (S, f)) ∧
      ((∀ u ∈ [sampleFirstInput, sampleSmallUtxo, sampleLastInput],
          ¬(BtcChain.sampleChain.selectEnv sampleTxp ⟨none, none⟩).bigInputThreshold <
            u.satoshis) →
        ∀ S f, (BtcChain.sampleChain.selectEnv sampleTxp ⟨none, none⟩).select
            [sampleFirstInput, sampleSmallUtxo, sampleLastInput] [] = .ok (S, f) →
          S.Subperm [sampleFirstInput, sampleSmallUtxo, sampleLastInput] ∧
            S.length ≤ [sampleSmallUtxo].length ∧
            (BtcChain.sampleChain.selectEnv sampleTxp ⟨none, none⟩).baseTxpFee +
                S.length * (BtcChain.sampleChain.selectEnv sampleTxp ⟨none, none⟩).feePerInput ≤
              (BtcChain.sampleChain.selectEnv sampleTxp ⟨none, none⟩).baseTxpFee +
                [sampleSmallUtxo].length *
                  (BtcChain.sampleChain.selectEnv sampleTxp ⟨none, none⟩).feePerInput) :=
  ⟨by decide!, @select_fewest_inputs BtcChain.sampleChain sampleTxp ⟨none, none⟩
    (by norm_num [sampleTxp]) le_rfl le_rfl rfl rfl (by decide)
    [sampleFirstInput, sampleSmallUtxo, sampleLastInput] [] [sampleSmallUtxo] (by decide!)
    (by decide!) (by decide!)⟩

def sampleRateTxp : TxProposal := { sampleTxp with feePerKb := 1200 }

def sampleQuarters : List Utxo :=
  [0, 1, 2, 3].map fun vout => ⟨"quarter", vout, 451, 0.00000451, "in1", "m/0/0", none, 6, false⟩

/-- Four inputs that net exactly the amount fall short in doubles. -/
theorem select_misses_exact_boundary :
    (BtcChain.sampleChain.selectEnv sampleRateTxp ⟨none, none⟩).Feasible 0 sampleQuarters ∧
    (BtcChain.sampleChain.selectEnv sampleRateTxp ⟨none, none⟩).select sampleQuarters [] =
      .error (.insufficientFundsForFee (some 804)) ∧
    (BtcChain.sampleChain.selectEnv sampleRateTxp ⟨none, none⟩).select
        (sampleQuarters ++ [sampleLastInput]) [] =
      .ok (sampleQuarters ++ [sampleLastInput], some 1004) := by
  decide!

example : ((BtcChain.sampleChain.selectEnv sampleRateTxp ⟨none, none⟩).selectLoop false
    (BtcChain.sampleChain.selectEnv sampleRateTxp ⟨none, none⟩).selectStart
      sampleQuarters).netTotal =
      999.9999999999998863131622783839702606201171875 := by
  decide!

end SelectEnv

end BitcoreWallet
