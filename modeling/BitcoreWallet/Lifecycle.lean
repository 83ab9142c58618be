import Mathlib.Logic.Relation
import BitcoreWallet.BtcChain.BitcoreTx

namespace BitcoreWallet

open TxProposal

variable {Tx : Type} (cs : ChainService Tx)

/-- One call in a proposal's life; a call that throws leaves the proposal as it was. -/
inductive Step : TxProposal → TxProposal → Prop
  | publish {x : TxProposal} : x.status = .temporary → Step x { x with status := .pending }
  | sign {x : TxProposal} (copayerId : String) (signatures : List String) (xpub : String) :
      x.isPending → Step x (x.sign cs copayerId signatures xpub).2
  | reject {x : TxProposal} (copayerId : String) (reason : Option String) :
      x.isPending → Step x (x.reject copayerId reason)
  | setBroadcasted {x y : TxProposal} (now : ℕ) : x.setBroadcasted now = .ok y → Step x y

variable (getChain : String → String) (networks : String → List String)
  (shuffle : List ℕ → List ℕ)

/-- The proposals of a wallet with `1 ≤ m ≤ n`: created, then moved by any steps. -/
inductive Reachable : TxProposal → Prop
  | create {opts : CreateOpts} {x : TxProposal} : 1 ≤ opts.walletM →
      opts.walletM ≤ opts.walletN → TxProposal.create getChain networks shuffle opts = .ok x →
      Reachable x
  | step {x y : TxProposal} : Reachable x → Step cs x y → Reachable y

/-- The lifecycle invariant: the quorum fields, and what each status says. -/
structure Inv (x : TxProposal) : Prop where
  walletM_pos : 1 ≤ x.walletM
  walletM_le : x.walletM ≤ x.walletN
  requiredSignatures_eq : x.requiredSignatures = x.walletM
  requiredRejections_eq : x.requiredRejections = min (x.walletM : ℤ) (x.walletN - x.walletM + 1)
  temporary : x.status = .temporary → x.actions = []
  pending : x.status = .pending →
    x.count .accept < x.requiredSignatures ∧ (x.count .reject : ℤ) < x.requiredRejections
  accepted : x.status = .accepted →
    x.requiredSignatures ≤ x.count .accept ∧ x.raw.isSome ∧ x.txid.isSome
  rejected : x.status = .rejected → x.requiredRejections ≤ x.count .reject ∧ x.txid = none
  txid : x.txid.isSome → x.status = .accepted ∨ x.status = .broadcasted

/-- The status moves: `temporary → pending → accepted | rejected` and `accepted → broadcasted`. -/
def StatusEdge : TxProposalStatus → TxProposalStatus → Prop
  | .temporary, .pending | .pending, .accepted | .pending, .rejected
  | .accepted, .broadcasted => True
  | s, t => s = t

theorem StatusEdge.refl (s : TxProposalStatus) : StatusEdge s s := by
  cases s <;> exact rfl

theorem StatusEdge.of_rejected {t : TxProposalStatus} (h : StatusEdge .rejected t) :
    t = .rejected := by
  cases t <;> first | rfl | exact (h : TxProposalStatus.rejected = _).symm

theorem StatusEdge.to_broadcasted {s : TxProposalStatus} (h : StatusEdge s .broadcasted) :
    s = .accepted ∨ s = .broadcasted := by
  cases s <;> first | exact .inl rfl | exact .inr rfl |
    exact TxProposalStatus.noConfusion (h : _ = TxProposalStatus.broadcasted)

theorem addAction_statusEdge {x : TxProposal} (hp : x.isPending) (copayerId : String)
    (type : ActionType) (comment : Option String) (signatures : Option (List String))
    (xpub : Option String) :
    StatusEdge x.status (x.addAction copayerId type comment signatures xpub).status := by
  rw [isPending_iff] at hp
  rw [addAction, updateStatus_status]
  rcases hp with hp | hp <;> simp only [hp, if_true, reduceCtorEq, if_false]
  · split_ifs <;> trivial
  · exact .refl _

theorem inv_create {opts : CreateOpts} {x : TxProposal} (hm : 1 ≤ opts.walletM)
    (hn : opts.walletM ≤ opts.walletN) (h : create getChain networks shuffle opts = .ok x) :
    Inv x := by
  obtain ⟨hs, ha, hM, hN, hsig, hrej, -, htx⟩ := create_ok h
  refine ⟨hM ▸ hm, hM ▸ hN ▸ hn, hsig.trans hM.symm, hM ▸ hN ▸ hrej, fun _ => ha,
    ?_, ?_, ?_, ?_⟩ <;> simp [hs, htx]

namespace Inv

variable {x : TxProposal}

theorem txid_none (hi : Inv x) (hs : x.status = .pending ∨ x.status = .temporary ∨
    x.status = .rejected) : x.txid = none := by
  cases h : x.txid with
  | none => rfl
  | some _ => rcases hi.txid (by simp [h]) with h' | h' <;> rcases hs with hs | hs | hs <;>
      simp [hs] at h'

theorem requiredRejections_pos (hi : Inv x) : 1 ≤ x.requiredRejections := by
  have := hi.walletM_le
  have := hi.walletM_pos
  rw [hi.requiredRejections_eq]
  omega

theorem vote (hi : Inv x) (hp : x.isPending) (a : TxProposalAction) {s : TxProposalStatus}
    (hs : s = (updateStatus { x with actions := x.actions ++ [a] }).status)
    {raw : Option RawTx} {txid : Option String} (txids : Option (List String))
    (hacc : a.type = .accept → s = .accepted → raw.isSome ∧ txid.isSome)
    (hkeep : (a.type = .accept → s ≠ .accepted) → raw = x.raw ∧ txid = x.txid) :
    Inv { x with actions := x.actions ++ [a], status := s, raw, txid, txids } := by
  have hr := hi.requiredRejections_pos
  rw [isPending_iff] at hp
  rw [updateStatus_status] at hs
  rcases hp with hp | hp
  · have hpend := hi.pending hp
    have htx := hi.txid_none (.inl hp)
    have hkeep' := fun (h : s ≠ .accepted) => (hkeep fun _ => h).2.trans htx
    simp only [count_eq] at hpend
    rw [if_pos hp] at hs
    split_ifs at hs with hrej hacc' <;> subst hs
    · simp only [isRejected_iff, count_eq, countP_type_append] at hrej
      exact ⟨hi.1, hi.2, hi.3, hi.4, by simp, by simp, by simp,
        fun _ => ⟨by simpa only [count_eq, countP_type_append] using hrej.2, hkeep' (by simp)⟩,
        fun h => by simp [hkeep' (by simp)] at h⟩
    · simp only [isAccepted_iff, count_eq, countP_type_append] at hacc'
      have ha : a.type = .accept := by
        by_contra h
        simp only [h, if_false] at hacc'
        omega
      exact ⟨hi.1, hi.2, hi.3, hi.4, by simp, by simp,
        fun _ => ⟨by simpa only [count_eq, countP_type_append] using hacc'.2, hacc ha rfl⟩,
        by simp, fun _ => .inl rfl⟩
    · simp only [isRejected_iff, isAccepted_iff, count_eq, countP_type_append] at hrej hacc'
      refine ⟨hi.1, hi.2, hi.3, hi.4, by simp, fun _ => ?_, by simp, by simp,
        fun h => by simp [hkeep' (by simp)] at h⟩
      simp only [count_eq, countP_type_append]
      constructor <;> omega
  · rw [if_neg (by simp [hp])] at hs
    subst hs
    have hacc'' := hi.accepted hp
    simp only [count_eq] at hacc''
    have hset : raw.isSome ∧ txid.isSome := by
      by_cases ha : a.type = .accept
      · exact hacc ha hp
      · obtain ⟨rfl, rfl⟩ := hkeep fun h => absurd h ha
        exact hacc''.2
    refine ⟨hi.1, hi.2, hi.3, hi.4, by simp [hp], by simp [hp], fun _ => ⟨?_, hset⟩,
      by simp [hp], fun _ => .inl hp⟩
    simp only [count_eq, countP_type_append]
    omega

theorem publish (hi : Inv x) (hs : x.status = .temporary) :
    Inv { x with status := .pending } := by
  have hr := hi.requiredRejections_pos
  have hw := hi.walletM_pos
  have ha := hi.temporary hs
  have htx := hi.txid_none (.inr (.inl hs))
  refine ⟨hi.1, hi.2, hi.3, hi.4, by simp, fun _ => ?_, by simp, by simp, by simp [htx]⟩
  simp only [count_eq, ha, List.countP_nil, Nat.cast_zero, hi.requiredSignatures_eq]
  omega

theorem reject (hi : Inv x) (hp : x.isPending) (copayerId : String) (reason : Option String) :
    Inv (x.reject copayerId reason) := by
  rw [TxProposal.reject, addAction_eq]
  exact hi.vote hp _ rfl _ (fun h => by cases h) fun _ => ⟨rfl, rfl⟩

theorem sign {Tx : Type} (cs : ChainService Tx) (hi : Inv x) (hp : x.isPending)
    (copayerId : String) (signatures : List String) (xpub : String) :
    Inv (x.sign cs copayerId signatures xpub).2 := by
  rcases sign_eq cs x copayerId signatures xpub with h | ⟨tx, -, h⟩ <;> rw [h]
  · exact hi
  · rw [recordSignatures_eq cs tx copayerId signatures xpub x (s := (updateStatus
      { x with actions :=
        x.actions ++ [⟨copayerId, .accept, some signatures, some xpub, none⟩] }).status) rfl]
    exact hi.vote hp _ rfl _ (fun _ h => by simp [h]) fun h => by simp [h rfl]

theorem setBroadcasted (hi : Inv x) {y : TxProposal} {now : ℕ}
    (h : x.setBroadcasted now = .ok y) : Inv y := by
  unfold TxProposal.setBroadcasted at h
  split_ifs at h with ht
  cases h
  have hx : x.txid.isSome := by
    cases hx : x.txid <;> simp_all [Truthy]
  exact ⟨hi.1, hi.2, hi.3, hi.4, by simp, by simp, by simp, by simp, fun _ => .inr rfl⟩

theorem step {Tx : Type} {cs : ChainService Tx} {y : TxProposal} (hi : Inv x)
    (h : Step cs x y) : Inv y := by
  cases h with
  | publish hs => exact hi.publish hs
  | sign copayerId signatures xpub hp => exact hi.sign cs hp copayerId signatures xpub
  | reject copayerId reason hp => exact hi.reject hp copayerId reason
  | setBroadcasted now h => exact hi.setBroadcasted h

theorem statusEdge {Tx : Type} {cs : ChainService Tx} {y : TxProposal} (hi : Inv x)
    (h : Step cs x y) : StatusEdge x.status y.status := by
  cases h with
  | publish hs => rw [hs]; trivial
  | sign copayerId signatures xpub hp =>
    rcases sign_eq cs x copayerId signatures xpub with h | ⟨tx, -, h⟩ <;> rw [h]
    · exact .refl _
    · rw [recordSignatures_eq cs tx copayerId signatures xpub x rfl]
      exact addAction_statusEdge hp _ _ _ _ _
  | reject copayerId reason hp => exact addAction_statusEdge hp _ _ _ _ _
  | setBroadcasted now h =>
    unfold TxProposal.setBroadcasted at h
    split_ifs at h with ht
    cases h
    have hx : x.txid.isSome := by
      cases hx : x.txid <;> simp_all [Truthy]
    rcases hi.txid hx with hs | hs <;> rw [hs]
    · trivial
    · exact .refl _

theorem setBroadcasted_error (hi : Inv x) (h₁ : x.status ≠ .accepted)
    (h₂ : x.status ≠ .broadcasted) (now : ℕ) : ∃ e, x.setBroadcasted now = .error e := by
  have hx : x.txid = none := by
    cases hx : x.txid with
    | none => rfl
    | some _ => rcases hi.txid (by simp [hx]) with h | h <;> contradiction
  simp [TxProposal.setBroadcasted, hx, Truthy]

end Inv

theorem Reachable.inv {x : TxProposal} (h : Reachable cs getChain networks shuffle x) : Inv x := by
  induction h with
  | create hm hn hc => exact inv_create getChain networks shuffle hm hn hc
  | step _ hs ih => exact ih.step hs

theorem Step.frame {x y : TxProposal} (h : Step cs x y) :
    ∃ actions status raw txid txids broadcastedOn,
      y = { x with actions, status, raw, txid, txids, broadcastedOn } := by
  cases h with
  | publish _ => exact ⟨_, _, _, _, _, _, rfl⟩
  | sign copayerId signatures xpub _ =>
    rcases sign_eq cs x copayerId signatures xpub with h | ⟨tx, -, h⟩ <;> rw [h]
    · exact ⟨_, _, _, _, _, _, rfl⟩
    · rw [recordSignatures_eq cs tx copayerId signatures xpub x rfl]
      exact ⟨_, _, _, _, _, _, rfl⟩
  | reject copayerId reason _ =>
    rw [TxProposal.reject, addAction_eq]
    exact ⟨_, _, _, _, _, _, rfl⟩
  | setBroadcasted now h =>
    unfold TxProposal.setBroadcasted at h
    split_ifs at h
    cases h
    exact ⟨_, _, _, _, _, _, rfl⟩

theorem Step.actions {x y : TxProposal} (h : Step cs x y) :
    ∃ l : List TxProposalAction, y.actions = x.actions ++ l ∧ l.length ≤ 1 := by
  cases h with
  | publish _ => exact ⟨[], by simp, by simp⟩
  | sign copayerId signatures xpub _ =>
    rcases sign_eq cs x copayerId signatures xpub with h | ⟨tx, -, h⟩ <;> rw [h]
    · exact ⟨[], by simp, by simp⟩
    · rw [recordSignatures_eq cs tx copayerId signatures xpub x rfl]
      exact ⟨_, rfl, by simp⟩
  | reject copayerId reason _ =>
    rw [TxProposal.reject, addAction_eq]
    exact ⟨_, rfl, by simp⟩
  | setBroadcasted now h =>
    unfold TxProposal.setBroadcasted at h
    split_ifs at h
    cases h
    exact ⟨[], by simp, by simp⟩

/-- Along every run of lifecycle calls, votes are only ever appended. -/
theorem run_append_only {x y : TxProposal} (h : Relation.ReflTransGen (Step cs) x y) :
    x.actions <+: y.actions ∧ ∃ actions status raw txid txids broadcastedOn,
      y = { x with actions, status, raw, txid, txids, broadcastedOn } := by
  induction h with
  | refl => exact ⟨List.prefix_refl _, _, _, _, _, _, _, rfl⟩
  | tail _ hs ih =>
    obtain ⟨hp, _, _, _, _, _, _, rfl⟩ := ih
    obtain ⟨l, hl, -⟩ := hs.actions
    obtain ⟨_, _, _, _, _, _, rfl⟩ := hs.frame
    exact ⟨hp.trans (hl ▸ List.prefix_append _ _), _, _, _, _, _, _, rfl⟩

theorem run_append_only_sample :
    ∃ x y, create (fun _ => "btc") (fun _ => ["livenet"]) id sampleOpts = .ok x ∧
      Relation.ReflTransGen (Step (BtcChain.service BtcChain.sampleChain)) x y ∧
      y.status = .accepted ∧
      (x.actions <+: y.actions ∧ ∃ actions status raw txid txids broadcastedOn,
        y = { x with actions, status, raw, txid, txids, broadcastedOn }) := by
  refine ⟨_, _, rfl, (fun hrun => ⟨hrun, ?_, run_append_only _ hrun⟩)
    (.tail (.single (.publish rfl)) (.sign "c1" ["sigA"] "xpub1" (by decide)))⟩
  decide

theorem Reachable.version_le {x : TxProposal} (h : Reachable cs getChain networks shuffle x) :
    x.version ≤ 3 ∧ x.lockUntilBlockHeight = none := by
  induction h with
  | create _ _ hc => exact create_version hc
  | step _ hs ih =>
    obtain ⟨_, _, _, _, _, _, rfl⟩ := hs.frame
    exact ih

/-- The proposal lifecycle: on every run from `create` the invariant holds. -/
theorem lifecycle_invariant {x : TxProposal} (h : Reachable cs getChain networks shuffle x) :
    Inv x ∧ (∀ y, Step cs x y → StatusEdge x.status y.status) ∧
      (x.status = .rejected → ∀ y, Step cs x y → y.status = .rejected) ∧
      (x.status ≠ .accepted → x.status ≠ .broadcasted →
        ∀ now, ∃ e, x.setBroadcasted now = .error e) :=
  have hi := h.inv
  ⟨hi, fun _ hs => hi.statusEdge hs,
    fun hr _ hs => StatusEdge.of_rejected (hr ▸ hi.statusEdge hs), hi.setBroadcasted_error⟩

theorem lifecycle_invariant_sample :
    ∃ x, Reachable (BtcChain.service BtcChain.sampleChain) (fun _ => "btc") (fun _ => ["livenet"])
        id x ∧ x.actions.length = 2 ∧ x.status = .pending ∧
      (Inv x ∧ (∀ y, Step (BtcChain.service BtcChain.sampleChain) x y →
          StatusEdge x.status y.status) ∧
        (x.status = .rejected → ∀ y, Step (BtcChain.service BtcChain.sampleChain) x y →
          y.status = .rejected) ∧
        (x.status ≠ .accepted → x.status ≠ .broadcasted →
          ∀ now, ∃ e, x.setBroadcasted now = .error e)) := by
  have hx := Reachable.step (.step (.step (@Reachable.create _
    (BtcChain.service BtcChain.sampleChain) (fun _ => "btc") (fun _ => ["livenet"]) id
    sampleMultisigOpts _ (by decide) (by decide) rfl) (.publish rfl))
    (.sign "c1" ["sigA"] "xpub1" (by decide))) (.reject "c2" none (by decide))
  exact ⟨_, hx, by decide, by decide, lifecycle_invariant _ _ _ _ hx⟩

end BitcoreWallet
