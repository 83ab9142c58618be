import Mathlib.Data.List.Nodup
import BitcoreWallet.Lifecycle

namespace BitcoreWallet

open TxProposal

variable {Tx : Type} (cs : ChainService Tx) (copayers : List String)

/-- A lifecycle step in which each copayer votes at most once. -/
inductive CopayerStep : TxProposal → TxProposal → Prop
  | publish {x : TxProposal} : x.status = .temporary → CopayerStep x { x with status := .pending }
  | sign {x : TxProposal} (copayerId : String) (signatures : List String) (xpub : String) :
      copayerId ∈ copayers → x.getActionBy copayerId = none → x.isPending →
      CopayerStep x (x.sign cs copayerId signatures xpub).2
  | reject {x : TxProposal} (copayerId : String) (reason : Option String) :
      copayerId ∈ copayers → x.getActionBy copayerId = none → x.isPending →
      CopayerStep x (x.reject copayerId reason)
  | setBroadcasted {x y : TxProposal} (now : ℕ) : x.setBroadcasted now = .ok y → CopayerStep x y

variable (getChain : String → String) (networks : String → List String)
  (shuffle : List ℕ → List ℕ)

/-- The proposals of a wallet with `1 ≤ m ≤ n` whose `n` copayers are distinct. -/
inductive WalletReachable : TxProposal → Prop
  | create {opts : CreateOpts} {x : TxProposal} : 1 ≤ opts.walletM →
      opts.walletM ≤ opts.walletN → copayers.Nodup → copayers.length = opts.walletN →
      TxProposal.create getChain networks shuffle opts = .ok x → WalletReachable x
  | step {x y : TxProposal} : WalletReachable x → CopayerStep cs copayers x y →
      WalletReachable y

def voters (x : TxProposal) (type : ActionType) : List String :=
  (x.actions.filter (·.type = type)).map (·.copayerId)

def nonRejecters (x : TxProposal) : List String :=
  copayers.filter (· ∉ voters x .reject)

theorem length_voters (x : TxProposal) (type : ActionType) :
    (voters x type).length = x.count type := by
  simp [voters, List.countP_eq_length_filter]

variable {cs copayers getChain networks shuffle}

theorem CopayerStep.step {x y : TxProposal} (h : CopayerStep cs copayers x y) : Step cs x y := by
  cases h with
  | publish hs => exact .publish hs
  | sign copayerId signatures xpub _ _ hp => exact .sign copayerId signatures xpub hp
  | reject copayerId reason _ _ hp => exact .reject copayerId reason hp
  | setBroadcasted now h => exact .setBroadcasted now h

theorem WalletReachable.reachable {x : TxProposal}
    (h : WalletReachable cs copayers getChain networks shuffle x) :
    Reachable cs getChain networks shuffle x := by
  induction h with
  | create hm hn _ _ hc => exact .create hm hn hc
  | step _ hs ih => exact .step ih hs.step

theorem CopayerStep.actions {x y : TxProposal} (h : CopayerStep cs copayers x y) :
    y.walletN = x.walletN ∧ (y.actions = x.actions ∨ ∃ a : TxProposalAction,
      a.copayerId ∈ copayers ∧ x.getActionBy a.copayerId = none ∧
        y.actions = x.actions ++ [a]) := by
  cases h with
  | publish _ => exact ⟨rfl, .inl rfl⟩
  | sign copayerId signatures xpub hc hn _ =>
    rcases sign_eq cs x copayerId signatures xpub with h | ⟨tx, -, h⟩ <;> rw [h]
    · exact ⟨rfl, .inl rfl⟩
    · rw [recordSignatures_eq cs tx copayerId signatures xpub x rfl]
      exact ⟨rfl, .inr ⟨_, hc, hn, rfl⟩⟩
  | reject copayerId reason hc hn _ =>
    rw [TxProposal.reject, addAction_eq]
    exact ⟨rfl, .inr ⟨_, hc, hn, rfl⟩⟩
  | setBroadcasted now h =>
    unfold TxProposal.setBroadcasted at h
    split_ifs at h
    cases h
    exact ⟨rfl, .inl rfl⟩

structure Voters (copayers : List String) (x : TxProposal) : Prop where
  copayers_nodup : copayers.Nodup
  length_copayers : copayers.length = x.walletN
  nodup : (x.actions.map (·.copayerId)).Nodup
  mem : ∀ a ∈ x.actions, a.copayerId ∈ copayers

theorem Voters.step {x y : TxProposal} (hv : Voters copayers x)
    (h : CopayerStep cs copayers x y) : Voters copayers y := by
  obtain ⟨hN, ha | ⟨a, hc, hn, ha⟩⟩ := h.actions
  · exact ⟨hv.1, hN ▸ hv.2, ha ▸ hv.3, ha ▸ hv.4⟩
  · have hfresh : ∀ b ∈ x.actions, ¬b.copayerId = a.copayerId := by
      simpa [getActionBy, List.find?_eq_none] using hn
    refine ⟨hv.1, hN ▸ hv.2, ?_, fun b hb => ?_⟩
    · rw [ha, List.map_append, List.nodup_append]
      simpa using ⟨hv.3, hfresh⟩
    · rw [ha, List.mem_append, List.mem_singleton] at hb
      rcases hb with hb | rfl
      exacts [hv.4 b hb, hc]

theorem WalletReachable.voters {x : TxProposal}
    (h : WalletReachable cs copayers getChain networks shuffle x) : Voters copayers x := by
  induction h with
  | create _ _ hnd hlen hc =>
    obtain ⟨-, ha, -, hN, -⟩ := create_ok hc
    exact ⟨hnd, hN ▸ hlen, by simp [ha], by simp [ha]⟩
  | step _ hs ih => exact ih.step hs

theorem WalletReachable.accepts {x : TxProposal}
    (h : WalletReachable cs copayers getChain networks shuffle x)
    (hs : x.status = .accepted ∨ x.status = .broadcasted) :
    x.requiredSignatures ≤ x.count .accept := by
  induction h with
  | create _ _ _ _ hc => rw [(create_ok hc).1] at hs; simp at hs
  | @step x y hx hxy ih =>
    have hi := (hx.step hxy).reachable.inv
    have hi' := hx.reachable.inv
    rcases hs with hs | hs
    · exact (hi.accepted hs).1
    · have hedge := hi'.statusEdge hxy.step
      rw [hs] at hedge
      have hreq : y.requiredSignatures = x.requiredSignatures := by
        obtain ⟨_, _, _, _, _, _, rfl⟩ := hxy.step.frame
        rfl
      have hcount : x.count .accept ≤ y.count .accept := by
        obtain ⟨-, ha | ⟨a, -, -, ha⟩⟩ := hxy.actions <;>
          simp only [count_eq, ha, countP_type_append, le_refl, Nat.le_add_right]
      exact hreq ▸ (ih hedge.to_broadcasted).trans hcount

theorem Voters.length_nonRejecters {x : TxProposal} (hv : Voters copayers x) :
    (nonRejecters copayers x).length + x.count .reject = x.walletN := by
  have hnd : (voters x .reject).Nodup :=
    hv.nodup.sublist ((List.filter_sublist _).map _)
  have hsub : ∀ c ∈ voters x .reject, c ∈ copayers := by
    simp only [voters, List.mem_map, List.mem_filter]
    rintro _ ⟨a, ⟨ha, -⟩, rfl⟩
    exact hv.mem a ha
  have hperm : (copayers.filter (· ∈ voters x .reject)).Perm (voters x .reject) :=
    (List.perm_ext_iff_of_nodup (hv.copayers_nodup.filter _) hnd).2 fun c => by
      simpa using fun h => hsub c h
  rw [← hv.length_copayers,
    List.length_eq_length_filter_add (l := copayers) (· ∈ voters x .reject), hperm.length_eq,
    length_voters, Nat.add_comm]
  simp only [nonRejecters, decide_not]

/-- A rejected proposal leaves too few copayers to accept it when `n + 1 ≤ 2m`. -/
theorem rejected_nonRejecters {x : TxProposal}
    (h : WalletReachable cs copayers getChain networks shuffle x) (hs : x.status = .rejected) :
    ((nonRejecters copayers x).length : ℤ) + x.requiredRejections ≤ x.walletN ∧
      (x.walletN + 1 ≤ 2 * x.walletM → (nonRejecters copayers x).length < x.walletM) := by
  have hi := h.reachable.inv
  have hlen := h.voters.length_nonRejecters
  have hrej := (hi.rejected hs).1
  have hreq := hi.requiredRejections_eq
  have hle := hi.walletM_le
  constructor
  · omega
  · intro hmn
    omega

theorem rejected_nonRejecters_sample :
    ∃ x, WalletReachable (BtcChain.service BtcChain.sampleChain) ["c1", "c2", "c3"]
        (fun _ => "btc") (fun _ => ["livenet"]) id x ∧ x.status = .rejected ∧
      (((nonRejecters ["c1", "c2", "c3"] x).length : ℤ) + x.requiredRejections ≤ x.walletN ∧
        (x.walletN + 1 ≤ 2 * x.walletM →
          (nonRejecters ["c1", "c2", "c3"] x).length < x.walletM)) := by
  have h := WalletReachable.step (.step (.step (@WalletReachable.create _
    (BtcChain.service BtcChain.sampleChain) ["c1", "c2", "c3"] (fun _ => "btc")
    (fun _ => ["livenet"]) id
    { sampleOpts with walletM := 2, walletN := 3 } _ (by decide) (by decide) (by decide)
    (by decide) rfl) (.publish rfl)) (.reject "c1" none (by decide) (by decide) (by decide)))
    (.reject "c2" none (by decide) (by decide) (by decide))
  exact ⟨_, h, by decide, rejected_nonRejecters h (by decide)⟩

/-- In a 1-of-3 wallet a rejected proposal could still have been accepted. -/
theorem rejected_with_accept_quorum_left :
    ∃ x, WalletReachable (BtcChain.service BtcChain.sampleChain) ["c1", "c2", "c3"]
        (fun _ => "btc") (fun _ => ["livenet"]) id x ∧ x.status = .rejected ∧
      x.walletM ≤ (nonRejecters ["c1", "c2", "c3"] x).length :=
  ⟨_, .step (.step (@WalletReachable.create _ _ _ _ _ _
    { sampleOpts with walletM := 1, walletN := 3 } _ (by decide) (by decide) (by decide)
    (by decide) rfl) (.publish rfl)) (.reject "c1" none (by decide) (by decide) (by decide)),
    by decide, by decide⟩

/-- An accepted or broadcasted proposal was approved by `m` distinct copayers. -/
theorem approvers_quorum {x : TxProposal}
    (h : WalletReachable cs copayers getChain networks shuffle x)
    (hs : x.status = .accepted ∨ x.status = .broadcasted) :
    x.getApprovers.Nodup ∧ (∀ c ∈ x.getApprovers, c ∈ copayers) ∧
      x.walletM ≤ x.getApprovers.length := by
  have hv := h.voters
  have hsub : x.getApprovers.Sublist (x.actions.map (·.copayerId)) :=
    (List.filter_sublist _).map _
  refine ⟨hv.nodup.sublist hsub, fun c hc => ?_, ?_⟩
  · obtain ⟨a, ha, rfl⟩ := List.mem_map.1 (hsub.subset hc)
    exact hv.mem a ha
  · have hi := h.reachable.inv
    rw [← hi.requiredSignatures_eq]
    exact (h.accepts hs).trans (length_voters x .accept).ge

theorem approvers_quorum_sample :
    ∃ x, WalletReachable (BtcChain.service BtcChain.sampleChain) ["c1", "c2", "c3"]
        (fun _ => "btc") (fun _ => ["livenet"]) id x ∧ x.status = .accepted ∧
      x.getApprovers = ["c1", "c2"] ∧
      (x.getApprovers.Nodup ∧ (∀ c ∈ x.getApprovers, c ∈ ["c1", "c2", "c3"]) ∧
        x.walletM ≤ x.getApprovers.length) := by
  have h := WalletReachable.step (.step (.step (@WalletReachable.create _
    (BtcChain.service BtcChain.sampleChain) ["c1", "c2", "c3"] (fun _ => "btc")
    (fun _ => ["livenet"]) id sampleMultisigOpts _ (by decide) (by decide) (by decide)
    (by decide) rfl) (.publish rfl)) (.sign "c1" ["sigA"] "xpub1" (by decide) (by decide)
    (by decide))) (.sign "c2" ["sigB"] "xpub2" (by decide) (by decide) (by decide))
  exact ⟨_, h, by decide, by decide, approvers_quorum h (.inl (by decide))⟩

end BitcoreWallet
