import BitcoreWallet.TxProposal

namespace BitcoreWallet

namespace ProposalTx

variable (lib : BitcoreLib)

/-- The body of both builders' loop over `txp.outputs`. -/
def addTxOutput (msg : String) (t : Transaction) (o : TxOutput) : Except String Transaction :=
  if Truthy o.script then .ok (t.addOutput lib ⟨o.amount, .script (o.script.getD "")⟩)
  else if Truthy o.toAddress then .ok (t.to lib (o.toAddress.getD "") o.amount)
  else .error msg

/-- `if (txp.instantAcceptanceEscrow && txp.escrowAddress) t.escrow(...)`. -/
def addEscrow (txp : TxProposal) (t : Transaction) : Except String Transaction :=
  match txp.instantAcceptanceEscrow, txp.escrowAddress with
  | some e, some a => if e = 0 then .ok t else t.escrow lib a.address (txp.fee.map ((e : ℤ) + ·))
  | _, _ => .ok t

/-- The outputs reordered by `outputOrder`, restricted to the transaction's indices. -/
def shuffleOutputs (msg : String) (outputOrder : List ℕ) (t : Transaction) :
    Except String Transaction :=
  if 1 < t.outputs.length then
    let order := outputOrder.filter (· < t.outputs.length)
    if t.outputs.length = order.length then t.sortOutputs order else .error msg
  else .ok t

section InputCount

variable {lib} {txp : TxProposal} {t t' : Transaction}

theorem inputs_length_addTxOutputs {msg : String}
    (h : txp.outputs.foldlM (addTxOutput lib msg) t = .ok t') :
    t'.inputs.length = t.inputs.length := by
  refine (foldlM_measure (·.inputs.length) 0 ?_ _ _ _ h).trans (by ring)
  intro t o t' h
  unfold addTxOutput at h
  split_ifs at h <;> cases h <;> simp

theorem inputs_length_addEscrow (h : addEscrow lib txp t = .ok t') :
    t'.inputs.length = t.inputs.length := by
  unfold addEscrow at h
  split at h
  · split_ifs at h
    · cases h; rfl
    · exact Transaction.inputs_length_escrow _ h
  · cases h; rfl

theorem inputs_length_shuffleOutputs {msg : String} {order : List ℕ}
    (h : shuffleOutputs msg order t = .ok t') : t'.inputs.length = t.inputs.length := by
  simp only [shuffleOutputs] at h
  split_ifs at h
  · exact Transaction.inputs_length_sortOutputs h
  · cases h; rfl

end InputCount

section Message

variable {lib} {t t' : Transaction} {msg msg' : String}

theorem addTxOutput_msg {o : TxOutput} (h : addTxOutput lib msg t o = .ok t') :
    addTxOutput lib msg' t o = .ok t' := by
  unfold addTxOutput at h ⊢
  split_ifs at h ⊢ <;> exact h

theorem shuffleOutputs_msg {order : List ℕ} (h : shuffleOutputs msg order t = .ok t') :
    shuffleOutputs msg' order t = .ok t' := by
  simp only [shuffleOutputs] at h ⊢
  split_ifs at h ⊢ <;> exact h

end Message

section OutputOrder

def escrowSlot (txp : TxProposal) : ℕ :=
  if txp.instantAcceptanceEscrow.getD 0 ≠ 0 ∧ txp.escrowAddress.isSome then 1 else 0

section OutputCount

variable {lib} {t t' : Transaction}

theorem addTxOutputs_outputs {msg : String} {txp : TxProposal} (hc : t.changeScript = none)
    (h : txp.outputs.foldlM (addTxOutput lib msg) t = .ok t') :
    t'.changeScript = none ∧ t'.outputs.length = t.outputs.length + txp.outputs.length := by
  simpa using foldlM_measure_of_inv (fun t : Transaction => t.changeScript = none)
    (·.outputs.length) 1 (fun t o t' hc h => by
      unfold addTxOutput at h
      split_ifs at h <;> cases h
      exacts [Transaction.addOutput_of_none hc _, Transaction.to_of_none hc _ _]) _ _ _ hc h

theorem addEscrow_outputs {txp : TxProposal} (hc : t.changeScript = none)
    (h : addEscrow lib txp t = .ok t') : t'.outputs.length ≤ t.outputs.length + escrowSlot txp := by
  unfold addEscrow at h
  split at h
  · rename_i e a he ha
    split_ifs at h with h0
    · cases h; omega
    · have hslot : escrowSlot txp = 1 := by simp [escrowSlot, he, ha, h0]
      rw [hslot, Transaction.escrow_of_none hc h]
  · cases h; omega

theorem addEscrow_eq_error {txp : TxProposal} (hlib : lib.hasEscrow = false)
    (hslot : escrowSlot txp = 1) : ∃ e, addEscrow lib txp t = .error e := by
  unfold escrowSlot at hslot
  split_ifs at hslot with h
  obtain ⟨he, ha⟩ := h
  unfold addEscrow
  cases hi : txp.instantAcceptanceEscrow <;> cases hb : txp.escrowAddress <;>
    simp_all [Transaction.escrow]

end OutputCount

theorem filterMap_get?_range {α : Type} : ∀ l : List α, (List.range l.length).filterMap l.get? = l
  | [] => rfl
  | a :: l => by
    rw [List.length_cons, List.range_succ_eq_map, List.filterMap_cons, List.filterMap_map]
    exact congrArg (a :: ·) (filterMap_get?_range l)

theorem filter_lt_perm_range {l : List ℕ} {N r : ℕ} (hl : l.Perm (List.range N)) (hr : r ≤ N) :
    (l.filter (· < r)).Perm (List.range r) := by
  rw [List.perm_ext_iff_of_nodup ((hl.nodup_iff.2 (List.nodup_range N)).filter _)
    (List.nodup_range r)]
  intro i
  simp only [List.mem_filter, hl.mem_iff, List.mem_range, decide_eq_true_eq]
  omega

theorem sortOutputs_of_perm {order : List ℕ} {t : Transaction}
    (h : order.Perm (List.range t.outputs.length)) :
    ∃ t', t.sortOutputs order = .ok t' ∧ t'.outputs.Perm t.outputs := by
  have hcheck : order.length = t.outputs.length ∧ (∀ i ∈ order, i < t.outputs.length) ∧
      ∀ i < t.outputs.length, i ∈ order :=
    ⟨by rw [h.length_eq, List.length_range], fun i hi => List.mem_range.1 (h.subset hi),
      fun i hi => h.symm.subset (List.mem_range.2 hi)⟩
  refine ⟨_, if_pos hcheck, ?_⟩
  have := h.filterMap (t.outputs.get? ·)
  rwa [filterMap_get?_range] at this

theorem shuffleOutputs_of_perm {msg : String} {order : List ℕ} {t : Transaction}
    (h : (order.filter (· < t.outputs.length)).Perm (List.range t.outputs.length)) :
    ∃ t', shuffleOutputs msg order t = .ok t' ∧ t'.outputs.Perm t.outputs := by
  simp only [shuffleOutputs]
  split_ifs with h₁ h₂
  · exact sortOutputs_of_perm h
  · exact absurd (by rw [h.length_eq, List.length_range]) h₂
  · exact ⟨t, rfl, List.Perm.refl _⟩

/-- The order `create` draws reorders a built transaction, keeping each output once. -/
theorem create_outputOrder_covers {getChain : String → String}
    {networks : String → List String} {shuffle : List ℕ → List ℕ}
    (hshuffle : ∀ l, (shuffle l).Perm l) {opts : CreateOpts} {x : TxProposal}
    (hcreate : TxProposal.create getChain networks shuffle opts = .ok x)
    (hmulti : opts.multiTx = false) (msg : String) (t : Transaction)
    (ht : t.outputs.length ≤ x.outputs.length + escrowSlot x + 1) :
    (x.outputOrder.filter (· < t.outputs.length)).Perm (List.range t.outputs.length) ∧
      ∃ t', shuffleOutputs msg x.outputOrder t = .ok t' ∧ t'.outputs.Perm t.outputs := by
  obtain ⟨hout, hesc, horder⟩ := TxProposal.create_outputs hcreate
  have hperm : x.outputOrder.Perm (List.range (TxProposal.numOutputs opts)) := by
    rw [horder]
    split_ifs
    exacts [List.Perm.refl _, hshuffle _]
  have hle : t.outputs.length ≤ TxProposal.numOutputs opts := by
    have : escrowSlot x ≤ if opts.instantAcceptanceEscrow.getD 0 ≠ 0 then 1 else 0 := by
      unfold escrowSlot
      split_ifs <;> simp_all
    simp only [TxProposal.numOutputs, hmulti, ← hout, Bool.false_eq_true, if_false]
    omega
  have hfilter := filter_lt_perm_range hperm hle
  exact ⟨hfilter, shuffleOutputs_of_perm hfilter⟩

def sampleEscrowOpts : CreateOpts :=
  { sampleOpts with escrowAddress := some ⟨"escrow", "m/1/1", none, []⟩,
                    instantAcceptanceEscrow := some 500, noShuffleOutputs := false }

def samplePaymentEscrowTx : Transaction :=
  { Transaction.empty with
    outputs := [⟨1000, .address "addr1"⟩, ⟨1000, .address "escrow"⟩] }

theorem create_outputOrder_covers_sample :
    ∃ x, TxProposal.create (fun _ => "btc") (fun _ => ["livenet"]) List.reverse
        sampleEscrowOpts = .ok x ∧
      sampleEscrowOpts.multiTx = false ∧
      samplePaymentEscrowTx.outputs.length ≤ x.outputs.length + escrowSlot x + 1 ∧
      (x.outputOrder.filter (· < samplePaymentEscrowTx.outputs.length)).Perm
          (List.range samplePaymentEscrowTx.outputs.length) ∧
        ∃ t', shuffleOutputs "" x.outputOrder samplePaymentEscrowTx = .ok t' ∧
          t'.outputs.Perm samplePaymentEscrowTx.outputs :=
  ⟨_, rfl, rfl, by decide, @create_outputOrder_covers (fun _ => "btc") (fun _ => ["livenet"])
    List.reverse List.reverse_perm sampleEscrowOpts _ rfl rfl "" _ (by decide)⟩

end OutputOrder

end ProposalTx

end BitcoreWallet
