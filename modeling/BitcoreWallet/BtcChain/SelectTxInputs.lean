import BitcoreWallet.BtcChain.Greedy

namespace BitcoreWallet

structure SelectTxInputsOpts extends SelectOpts where
  utxosToExclude : List String
  inputs : List Utxo
  deriving DecidableEq, Repr

inductive SelectTxInputsError
  | select (err : SelectError)
  | lockedFunds
  | couldNotSelect
  | noInputPaths
  | dustAmount
  | thrown (msg : String)
  | serialization (msg : String)
  deriving DecidableEq, Repr

inductive SerializationError
  | fee
  | dustOutputs
  | other (msg : String)
  deriving DecidableEq, Repr

structure Balance where
  totalAmount : ℕ
  lockedAmount : ℕ
  totalConfirmedAmount : ℕ
  lockedConfirmedAmount : ℕ
  availableAmount : ℕ
  availableConfirmedAmount : ℕ
  deriving DecidableEq, Repr

def utxoKey (u : Utxo) : String := u.txid ++ ":" ++ toString u.vout

def uniqByAux (key : Utxo → String) (seen : List String) : List Utxo → List Utxo
  | [] => []
  | u :: us =>
    if key u ∈ seen then uniqByAux key seen us else u :: uniqByAux key (key u :: seen) us

def uniqBy (key : Utxo → String) (l : List Utxo) : List Utxo := uniqByAux key [] l

def indexOfTxid (txids : List String) (txid : String) : ℤ :=
  if txid ∈ txids then txids.indexOf txid else -1

namespace BtcChain

variable (c : BtcChain)

def totalizeUtxos (utxos : List Utxo) : Balance :=
  let sum (l : List Utxo) := (l.map (·.satoshis)).sum
  let totalAmount := sum utxos
  let lockedAmount := sum (utxos.filter (·.locked))
  let totalConfirmedAmount := sum (utxos.filter (·.confirmations ≠ 0))
  let lockedConfirmedAmount := sum ((utxos.filter (·.locked)).filter (·.confirmations ≠ 0))
  { totalAmount, lockedAmount, totalConfirmedAmount, lockedConfirmedAmount,
    availableAmount := totalAmount - lockedAmount,
    availableConfirmedAmount := totalConfirmedAmount - lockedConfirmedAmount }

/-- `checkTx(txp)`: the size cap, the input paths, then bitcore's checks. -/
def checkTx (serializationError : Transaction → Bool → Option SerializationError)
    (txp : TxProposal) : TxProposal × Option SelectTxInputsError :=
  if (Defaults.maxTxSizeInKbBtc : ℚ) < (c.getEstimatedSize txp ⟨true, none⟩ : ℚ) / 1000 then
    (txp, some (.select .txMaxSizeExceeded))
  else if txp.inputPaths = [] then (txp, some .noInputPaths)
  else match c.getBitcoreTx txp with
    | .error msg => (txp, some (.thrown msg))
    | .ok t =>
      let disableDustOutputs := txp.outputs.any fun o => (o.script.getD "").startsWith "6a"
      match serializationError t disableDustOutputs with
      | none => ({ txp with fee := some (t.getFee c.bitcoreLib) }, none)
      | some .fee => (txp, some (.select (.insufficientFundsForFee (txp.fee.map (↑)))))
      | some .dustOutputs => (txp, some .dustAmount)
      | some (.other msg) => (txp, some (.serialization msg))

/-- `sanitizeUtxos`: no locked, excluded or, when asked, unconfirmed UTXO. -/
def sanitizeUtxos (txp : TxProposal) (opts : SelectTxInputsOpts) (utxos : List Utxo) :
    List Utxo :=
  utxos.filter fun u =>
    !u.locked && !(txp.excludeUnconfirmedUtxos && !txp.replaceTxByFee && u.confirmations == 0) &&
      !decide (utxoKey u ∈ opts.utxosToExclude)

/-- A confirmation group's candidates, one per address for an escrow, ordered under RBF. -/
def candidateUtxos (isZceCompatible : Bool) (txp : TxProposal) (opts : SelectTxInputsOpts)
    (utxos : List Utxo) (group : ℕ) : List Utxo :=
  let candidates := utxos.filter (group ≤ ·.confirmations)
  let candidates :=
    if opts.instantAcceptanceEscrow.getD 0 ≠ 0 ∧ isZceCompatible then
      uniqBy (·.address) (candidates.insertionSort fun a b => b.amount ≤ a.amount)
    else candidates
  if txp.replaceTxByFee then
    let txIdArray := opts.inputs.map (·.txid)
    candidates.insertionSort fun a b => indexOfTxid txIdArray b.txid ≤ indexOfTxid txIdArray a.txid
  else candidates

end BtcChain

structure LadderState where
  inputs : List Utxo
  fee : Option ℤ
  selectionError : Option SelectError
  lastGroupLength : Option ℕ
  deriving DecidableEq, Repr

def ladderStep (candidates : ℕ → List Utxo)
    (select : List Utxo → Except SelectError (List Utxo × Option ℤ)) (st : LadderState)
    (group : ℕ) : LadderState :=
  let candidateUtxos := candidates group
  if st.lastGroupLength = some candidateUtxos.length then st
  else match select candidateUtxos with
    | .error err =>
      { st with selectionError := some err, lastGroupLength := some candidateUtxos.length }
    | .ok (inputs, fee) =>
      { inputs, fee, selectionError := none, lastGroupLength := some candidateUtxos.length }

/-- `async.whilst(() => i < groups.length && _.isEmpty(inputs), ...)`. -/
def ladder (candidates : ℕ → List Utxo)
    (select : List Utxo → Except SelectError (List Utxo × Option ℤ)) :
    LadderState → List ℕ → LadderState
  | st, [] => st
  | st, group :: groups =>
    if st.inputs ≠ [] then st
    else ladder candidates select (ladderStep candidates select st group) groups

def LadderState.outcome (st : LadderState) : List Utxo × Option ℤ × Option SelectError :=
  (st.inputs, st.fee, st.selectionError)

def plainStep (candidates : ℕ → List Utxo)
    (select : List Utxo → Except SelectError (List Utxo × Option ℤ)) (st : LadderState)
    (group : ℕ) : LadderState :=
  match select (candidates group) with
  | .error err => { st with selectionError := some err }
  | .ok (inputs, fee) => { st with inputs, fee, selectionError := none }

/-- The ladder as the design describes it: every group in order, until one yields inputs. -/
def plainLadder (candidates : ℕ → List Utxo)
    (select : List Utxo → Except SelectError (List Utxo × Option ℤ)) :
    LadderState → List ℕ → LadderState
  | st, [] => st
  | st, group :: groups =>
    if st.inputs ≠ [] then st
    else plainLadder candidates select (plainStep candidates select st group) groups

namespace BtcChain

variable (c : BtcChain)

/-- `selectTxInputs` on the fetched UTXOs: the proposal it leaves, and the error. -/
def selectTxInputs (serializationError : Transaction → Bool → Option SerializationError)
    (isZceCompatible : Bool) (shuffle : List Utxo → List Utxo) (utxos : List Utxo)
    (txp : TxProposal) (opts : SelectTxInputsOpts) : TxProposal × Option SelectTxInputsError :=
  if txp.inputs ≠ [] ∧ ¬txp.replaceTxByFee then
    let txp := if txp.fee.isSome then txp
      else { txp with fee := some (c.getEstimatedFee txp ⟨true, none⟩) }
    c.checkTx serializationError txp
  else
    let balance := totalizeUtxos utxos
    let confirmedOnly := txp.excludeUnconfirmedUtxos && !txp.replaceTxByFee
    let totalAmount := if confirmedOnly then balance.totalConfirmedAmount else balance.totalAmount
    let availableAmount :=
      if confirmedOnly then balance.availableConfirmedAmount else balance.availableAmount
    if totalAmount < txp.getTotalAmount then (txp, some (.select .insufficientFunds))
    else if availableAmount < txp.getTotalAmount then (txp, some .lockedFunds)
    else
      let utxos := sanitizeUtxos txp opts utxos
      let groups := if txp.excludeUnconfirmedUtxos then [6, 1] else [6, 1, 0]
      let st := ladder (candidateUtxos isZceCompatible txp opts utxos)
        (fun cands => (c.selectEnv txp opts.toSelectOpts).select cands txp.inputs)
        ⟨[], none, none, none⟩ groups
      if st.selectionError.isSome ∨ st.inputs = [] then
        (txp, some ((st.selectionError.map .select).getD .couldNotSelect))
      else
        c.checkTx serializationError
          { txp.setInputs (some (shuffle st.inputs)) with fee := st.fee }

end BtcChain

namespace SelectEnv

variable {e : SelectEnv}

theorem selectFinish_cases {s : SelectState} {bigInputs S : List Utxo} {f : Option ℤ}
    (h : e.selectFinish s bigInputs = .ok (S, f)) : S = s.selected ∨ ∃ b ∈ bigInputs, S = [b] := by
  simp only [selectFinish] at h
  split_ifs at h with hlt hemp hemp
  · cases bigInputs with
    | nil => simp [useBigInput] at hemp
    | cons b _ =>
      cases h
      exact .inr ⟨b, List.mem_cons_self _ _, rfl⟩
  · cases h
    exact .inl rfl

theorem select_subperm {utxos requiredInputs S : List Utxo} {f : Option ℤ}
    (h : e.select utxos requiredInputs = .ok (S, f)) : S.Subperm utxos := by
  simp only [select] at h
  split_ifs at h <;> rcases selectFinish_cases h with rfl | ⟨b, hb, rfl⟩
  all_goals first
    | (obtain ⟨j, hj⟩ := selectLoop_selected _ _ e.selectStart
       rw [hj]
       exact (List.take_sublist _ _).subperm.trans ((perm_sortByRequired _ _ _).subperm.trans
         ((List.filter_sublist _).trans (List.filter_sublist _)).subperm))
    | (have hb' := List.mem_filter.1 ((mem_sortByRequired).1 hb)
       exact List.singleton_subperm_iff.2 (List.mem_filter.1 hb'.1).1)

end SelectEnv

theorem uniqByAux_sublist (key : Utxo → String) :
    ∀ (seen : List String) (l : List Utxo), (uniqByAux key seen l).Sublist l
  | _, [] => List.Sublist.slnil
  | seen, u :: us => by
    unfold uniqByAux
    split_ifs
    · exact (uniqByAux_sublist key seen us).cons u
    · exact (uniqByAux_sublist key (key u :: seen) us).cons₂ u

namespace BtcChain

variable {c : BtcChain}

theorem candidateUtxos_subperm (isZceCompatible : Bool) (txp : TxProposal)
    (opts : SelectTxInputsOpts) (utxos : List Utxo) (group : ℕ) :
    (candidateUtxos isZceCompatible txp opts utxos group).Subperm utxos := by
  have hfilter := (List.filter_sublist (p := fun u : Utxo => decide (group ≤ u.confirmations))
    utxos).subperm
  have hzce := (uniqByAux_sublist (·.address) [] _).subperm.trans
    ((List.perm_insertionSort (fun a b : Utxo => b.amount ≤ a.amount) _).subperm.trans hfilter)
  unfold candidateUtxos
  split_ifs
  all_goals first
    | exact (List.perm_insertionSort _ _).subperm.trans hzce
    | exact (List.perm_insertionSort _ _).subperm.trans hfilter
    | exact hzce
    | exact hfilter

theorem candidateUtxos_eq_of_length_eq {isZceCompatible : Bool} {txp : TxProposal}
    {opts : SelectTxInputsOpts} {utxos : List Utxo}
    (hzce : opts.instantAcceptanceEscrow.getD 0 = 0 ∨ isZceCompatible = false) {g g' : ℕ}
    (hle : g' ≤ g) (hlen : (candidateUtxos isZceCompatible txp opts utxos g').length =
      (candidateUtxos isZceCompatible txp opts utxos g).length) :
    candidateUtxos isZceCompatible txp opts utxos g' =
      candidateUtxos isZceCompatible txp opts utxos g := by
  have hnot : ¬(opts.instantAcceptanceEscrow.getD 0 ≠ 0 ∧ isZceCompatible = true) := by
    rcases hzce with h | h <;> simp [h]
  have hsub : (utxos.filter fun u => decide (g ≤ u.confirmations)).Sublist
      (utxos.filter fun u => decide (g' ≤ u.confirmations)) :=
    List.monotone_filter_right _ fun u hu => by simp only [decide_eq_true_eq] at hu ⊢; omega
  unfold candidateUtxos at hlen ⊢
  simp only [hnot, if_false] at hlen ⊢
  split_ifs at hlen ⊢
  · rw [List.length_insertionSort, List.length_insertionSort] at hlen
    rw [hsub.eq_of_length hlen.symm]
  · rw [hsub.eq_of_length hlen.symm]

theorem checkTx_fst (serializationError : Transaction → Bool → Option SerializationError)
    (txp : TxProposal) :
    (c.checkTx serializationError txp).1 =
      { txp with fee := (c.checkTx serializationError txp).1.fee } := by
  unfold checkTx
  split_ifs
  · rfl
  · rfl
  · split
    · rfl
    · dsimp only
      split <;> rfl

end BtcChain

/-- The two ladders agree so far, and the length remembered is a higher group's. -/
structure Sync (candidates : ℕ → List Utxo)
    (select : List Utxo → Except SelectError (List Utxo × Option ℤ)) (groups : List ℕ)
    (st pt : LadderState) : Prop where
  outcome : st.outcome = pt.outcome
  last : ∀ n, st.lastGroupLength = some n → ∃ g, (candidates g).length = n ∧
    (∀ g' ∈ groups, g' ≤ g) ∧ plainStep candidates select pt g = pt

section Ladder

variable {candidates : ℕ → List Utxo}
  {select : List Utxo → Except SelectError (List Utxo × Option ℤ)}

theorem ladder_of_ne_nil {st : LadderState} (h : st.inputs ≠ []) :
    ∀ groups, ladder candidates select st groups = st
  | [] => rfl
  | _ :: _ => if_pos h

theorem ladder_inputs :
    ∀ (groups : List ℕ) (st : LadderState), st.inputs = [] →
      (ladder candidates select st groups).inputs = [] ∨
        ∃ g ∈ groups, ∃ fee,
          select (candidates g) = .ok ((ladder candidates select st groups).inputs, fee)
  | [], _, h => .inl h
  | g :: groups, st, h => by
    have hcons : ladder candidates select st (g :: groups) =
        ladder candidates select (ladderStep candidates select st g) groups := if_neg (not_not.2 h)
    rw [hcons]
    -- a step that leaves no inputs hands over to the rest of the ladder
    have hrest (st' : LadderState) (h' : st'.inputs = []) :
        (ladder candidates select st' groups).inputs = [] ∨ ∃ g' ∈ g :: groups, ∃ fee,
          select (candidates g') = .ok ((ladder candidates select st' groups).inputs, fee) := by
      rcases ladder_inputs groups st' h' with h'' | ⟨g', hg', h''⟩
      exacts [.inl h'', .inr ⟨g', List.mem_cons_of_mem _ hg', h''⟩]
    dsimp only [ladderStep]
    split_ifs
    · exact hrest st h
    · split
      · exact hrest _ h
      · rename_i inputs fee hsel
        by_cases hin : inputs = []
        · exact hrest _ hin
        · rw [ladder_of_ne_nil hin]
          exact .inr ⟨g, List.mem_cons_self _ _, fee, hsel⟩

theorem plainStep_plainStep (st : LadderState) (g : ℕ) :
    plainStep candidates select (plainStep candidates select st g) g =
      plainStep candidates select st g := by
  unfold plainStep
  split <;> rfl

section Nested

-- Candidate lists that grow as the group falls, so that two groups with as many candidates
-- have the same ones.
variable (hnest : ∀ g g', g' ≤ g → (candidates g').length = (candidates g).length →
  candidates g' = candidates g)

include hnest

theorem Sync.step {g : ℕ} {groups : List ℕ} {st pt : LadderState}
    (hsorted : (g :: groups).Pairwise (· ≥ ·)) (h : Sync candidates select (g :: groups) st pt) :
    Sync candidates select groups
      (ladderStep candidates select st g) (plainStep candidates select pt g) := by
  have hrest (g' : ℕ) (hg' : g' ∈ groups) : g' ≤ g := List.rel_of_pairwise_cons hsorted hg'
  dsimp only [ladderStep]
  split_ifs with hskip
  · -- a skipped group has the candidates of the group last run, which change nothing
    obtain ⟨g₀, hlen, hle, hfix⟩ := h.last _ hskip
    have hsame : candidates g = candidates g₀ :=
      hnest g₀ g (hle g (List.mem_cons_self _ _)) hlen.symm
    have hplain : plainStep candidates select pt g = plainStep candidates select pt g₀ := by
      unfold plainStep; rw [hsame]
    rw [hplain, hfix]
    exact ⟨h.outcome, fun n hn => (h.last n hn).imp fun g₀ ⟨hl, hle, hfix⟩ =>
      ⟨hl, fun g' hg' => hle g' (List.mem_cons_of_mem _ hg'), hfix⟩⟩
  · refine ⟨?_, fun n hn => ⟨g, ?_, hrest, plainStep_plainStep _ _⟩⟩
    · have hout := h.outcome
      simp only [LadderState.outcome, plainStep, Prod.mk.injEq] at hout ⊢
      split <;> simp_all
    · split at hn <;> exact Option.some_inj.1 hn

theorem Sync.run : ∀ {groups : List ℕ} {st pt : LadderState}, groups.Pairwise (· ≥ ·) →
    Sync candidates select groups st pt →
    (ladder candidates select st groups).outcome = (plainLadder candidates select pt groups).outcome
  | [], _, _, _, h => h.outcome
  | g :: groups, st, pt, hsorted, h => by
    have hin : st.inputs = pt.inputs := congrArg Prod.fst h.outcome
    unfold ladder plainLadder
    rw [← hin]
    split_ifs
    · exact h.outcome
    · exact Sync.run (List.Pairwise.of_cons hsorted) (h.step hnest hsorted)

end Nested

end Ladder

/-- Inputs as `selectTxInputs` means to take them: distinct, fetched, unlocked, kept. -/
structure WellChosen (utxos : List Utxo) (txp : TxProposal) (opts : SelectTxInputsOpts)
    (inputs : List Utxo) : Prop where
  nodup : (inputs.map fun u => (u.txid, u.vout)).Nodup
  mem : ∀ u ∈ inputs, u ∈ utxos
  unlocked : ∀ u ∈ inputs, u.locked = false
  notExcluded : ∀ u ∈ inputs, utxoKey u ∉ opts.utxosToExclude
  confirmed : txp.excludeUnconfirmedUtxos = true → txp.replaceTxByFee = false →
    ∀ u ∈ inputs, 0 < u.confirmations

namespace BtcChain

variable {c : BtcChain}

@[simp] theorem mem_sanitizeUtxos {txp : TxProposal} {opts : SelectTxInputsOpts}
    {utxos : List Utxo} {u : Utxo} :
    u ∈ sanitizeUtxos txp opts utxos ↔ u ∈ utxos ∧ u.locked = false ∧
      ¬(txp.excludeUnconfirmedUtxos = true ∧ txp.replaceTxByFee = false ∧ u.confirmations = 0) ∧
      utxoKey u ∉ opts.utxosToExclude := by
  rcases hx : txp.excludeUnconfirmedUtxos <;> rcases hr : txp.replaceTxByFee <;>
    simp [sanitizeUtxos, hx, hr, and_assoc]

theorem wellChosen_of_subperm {utxos inputs : List Utxo} {txp : TxProposal}
    {opts : SelectTxInputsOpts} (hnodup : (utxos.map fun u => (u.txid, u.vout)).Nodup)
    (h : inputs.Subperm (sanitizeUtxos txp opts utxos)) : WellChosen utxos txp opts inputs := by
  have hmem (u : Utxo) (hu : u ∈ inputs) := mem_sanitizeUtxos.1 (h.subset hu)
  obtain ⟨l, hp, hs⟩ :=
    subperm_map (fun u : Utxo => (u.txid, u.vout)) (h.trans (List.filter_sublist _).subperm)
  exact ⟨hp.nodup_iff.1 (hnodup.sublist hs), fun u hu => (hmem u hu).1,
    fun u hu => (hmem u hu).2.1, fun u hu => (hmem u hu).2.2.2,
    fun hx hr u hu => Nat.pos_of_ne_zero fun h0 => (hmem u hu).2.2.1 ⟨hx, hr, h0⟩⟩

theorem wellChosen_of_ladder {isZceCompatible : Bool} {shuffle : List Utxo → List Utxo}
    (hshuffle : ∀ l, (shuffle l).Perm l) {utxos : List Utxo} {txp : TxProposal}
    {opts : SelectTxInputsOpts} (hnodup : (utxos.map fun u => (u.txid, u.vout)).Nodup)
    {groups : List ℕ}
    (hne : (ladder (candidateUtxos isZceCompatible txp opts (sanitizeUtxos txp opts utxos))
      (fun cands => (c.selectEnv txp opts.toSelectOpts).select cands txp.inputs)
      ⟨[], none, none, none⟩ groups).inputs ≠ []) :
    WellChosen utxos txp opts (shuffle (ladder (candidateUtxos isZceCompatible txp opts
      (sanitizeUtxos txp opts utxos))
      (fun cands => (c.selectEnv txp opts.toSelectOpts).select cands txp.inputs)
      ⟨[], none, none, none⟩ groups).inputs) := by
  rcases ladder_inputs groups ⟨[], none, none, none⟩ rfl with hnil | ⟨g, -, fee, hg⟩
  · exact absurd hnil hne
  · exact wellChosen_of_subperm hnodup ((hshuffle _).subperm.trans
      ((SelectEnv.select_subperm hg).trans (candidateUtxos_subperm _ _ _ _ _)))

/-- Coin selection fails untouched or installs well-chosen inputs. -/
theorem selectTxInputs_installs
    (serializationError : Transaction → Bool → Option SerializationError) (isZceCompatible : Bool)
    {shuffle : List Utxo → List Utxo} (hshuffle : ∀ l, (shuffle l).Perm l)
    {utxos : List Utxo} {txp : TxProposal} {opts : SelectTxInputsOpts}
    (hnodup : (utxos.map fun u => (u.txid, u.vout)).Nodup)
    (hsel : txp.inputs = [] ∨ txp.replaceTxByFee = true) :
    ((c.selectTxInputs serializationError isZceCompatible shuffle utxos txp opts).1 = txp ∧
        (c.selectTxInputs serializationError isZceCompatible shuffle utxos txp opts).2.isSome) ∨
      ∃ inputs, WellChosen utxos txp opts inputs ∧
        (c.selectTxInputs serializationError isZceCompatible shuffle utxos txp opts).1 =
          { txp with inputs, inputPaths := inputs.map (·.path),
                     fee := (c.selectTxInputs serializationError isZceCompatible shuffle utxos txp
                       opts).1.fee } := by
  have hmode : ¬(txp.inputs ≠ [] ∧ ¬txp.replaceTxByFee) := fun ⟨h₁, h₂⟩ => hsel.elim h₁ h₂
  generalize hr : c.selectTxInputs serializationError isZceCompatible shuffle utxos txp opts = r
  rw [selectTxInputs, if_neg hmode] at hr
  generalize (if txp.excludeUnconfirmedUtxos then [6, 1] else [6, 1, 0]) = groups at hr
  dsimp only at hr
  split_ifs at hr <;> subst hr <;> first
    | exact .inr ⟨_, wellChosen_of_ladder hshuffle hnodup (not_or.1 ‹_›).2, checkTx_fst _ _⟩
    | exact .inl ⟨rfl, rfl⟩

def sampleLockedUtxo : Utxo := ⟨"locked", 0, 5000, 0.00005, "in1", "m/0/0", none, 6, true⟩

def sampleFreshUtxo : Utxo := ⟨"fresh", 0, 900, 0.000009, "in1", "m/0/0", none, 0, false⟩

def sampleExcludedUtxo : Utxo := ⟨"excluded", 1, 4000, 0.00004, "in1", "m/0/0", none, 6, false⟩

def sampleWalletUtxos : List Utxo :=
  [SelectEnv.sampleFirstInput, sampleLockedUtxo, SelectEnv.sampleLastInput, sampleFreshUtxo,
    sampleExcludedUtxo]

def sampleWalletOpts : SelectTxInputsOpts := ⟨⟨none, none⟩, ["excluded:1"], []⟩

theorem selectTxInputs_installs_sample :
    (sampleChain.selectTxInputs (fun _ _ => none) false id sampleWalletUtxos sampleTxp
        sampleWalletOpts).2 = none ∧
    (sampleChain.selectTxInputs (fun _ _ => none) false id sampleWalletUtxos sampleTxp
        sampleWalletOpts).1.inputs = [SelectEnv.sampleFirstInput, SelectEnv.sampleLastInput] ∧
    (∀ l : List Utxo, (id l).Perm l) ∧
    (sampleWalletUtxos.map fun u => (u.txid, u.vout)).Nodup ∧
    (sampleTxp.inputs = [] ∨ sampleTxp.replaceTxByFee = true) ∧
    (((sampleChain.selectTxInputs (fun _ _ => none) false id sampleWalletUtxos sampleTxp
          sampleWalletOpts).1 = sampleTxp ∧
        (sampleChain.selectTxInputs (fun _ _ => none) false id sampleWalletUtxos sampleTxp
          sampleWalletOpts).2.isSome) ∨
      ∃ inputs, WellChosen sampleWalletUtxos sampleTxp sampleWalletOpts inputs ∧
        (sampleChain.selectTxInputs (fun _ _ => none) false id sampleWalletUtxos sampleTxp
          sampleWalletOpts).1 =
          { sampleTxp with inputs, inputPaths := inputs.map (·.path),
                           fee := (sampleChain.selectTxInputs (fun _ _ => none) false id
                             sampleWalletUtxos sampleTxp sampleWalletOpts).1.fee }) :=
  ⟨by decide!, by decide!, List.Perm.refl, by decide, .inl rfl,
    selectTxInputs_installs _ false List.Perm.refl (by decide) (.inl rfl)⟩

/-- Without escrow de-duplication the skipping ladder ends as the plain ladder. -/
theorem ladder_outcome_eq_plainLadder (c : BtcChain) (isZceCompatible : Bool)
    (utxos : List Utxo) {txp : TxProposal} {opts : SelectTxInputsOpts}
    (hzce : opts.instantAcceptanceEscrow.getD 0 = 0 ∨ isZceCompatible = false) :
    (ladder (candidateUtxos isZceCompatible txp opts (sanitizeUtxos txp opts utxos))
        (fun cands => (c.selectEnv txp opts.toSelectOpts).select cands txp.inputs)
        ⟨[], none, none, none⟩
        (if txp.excludeUnconfirmedUtxos then [6, 1] else [6, 1, 0])).outcome =
      (plainLadder (candidateUtxos isZceCompatible txp opts (sanitizeUtxos txp opts utxos))
        (fun cands => (c.selectEnv txp opts.toSelectOpts).select cands txp.inputs)
        ⟨[], none, none, none⟩
        (if txp.excludeUnconfirmedUtxos then [6, 1] else [6, 1, 0])).outcome :=
  Sync.run (fun _ _ hle hlen => candidateUtxos_eq_of_length_eq hzce hle hlen)
    (by split_ifs <;> decide) ⟨rfl, fun _ h => nomatch h⟩

theorem ladder_outcome_eq_plainLadder_sample :
    (ladder (candidateUtxos false sampleTxp sampleWalletOpts
          (sanitizeUtxos sampleTxp sampleWalletOpts sampleWalletUtxos))
        (fun cands => (sampleChain.selectEnv sampleTxp ⟨none, none⟩).select cands sampleTxp.inputs)
        ⟨[], none, none, none⟩ [6, 1, 0]).outcome =
      ([SelectEnv.sampleFirstInput, SelectEnv.sampleLastInput], some 400, none) ∧
    (sampleWalletOpts.instantAcceptanceEscrow.getD 0 = 0 ∨ false = false) ∧
    (ladder (candidateUtxos false sampleTxp sampleWalletOpts
          (sanitizeUtxos sampleTxp sampleWalletOpts sampleWalletUtxos))
        (fun cands => (sampleChain.selectEnv sampleTxp ⟨none, none⟩).select cands sampleTxp.inputs)
        ⟨[], none, none, none⟩
        (if sampleTxp.excludeUnconfirmedUtxos then [6, 1] else [6, 1, 0])).outcome =
      (plainLadder (candidateUtxos false sampleTxp sampleWalletOpts
          (sanitizeUtxos sampleTxp sampleWalletOpts sampleWalletUtxos))
        (fun cands => (sampleChain.selectEnv sampleTxp ⟨none, none⟩).select cands sampleTxp.inputs)
        ⟨[], none, none, none⟩
        (if sampleTxp.excludeUnconfirmedUtxos then [6, 1] else [6, 1, 0])).outcome :=
  ⟨by decide!, .inl rfl,
    ladder_outcome_eq_plainLadder sampleChain false sampleWalletUtxos (.inl rfl)⟩

def sampleZceTxp : TxProposal := { SelectEnv.sampleEscrowTxp with feePerKb := 1000 }

def sampleZceOpts : SelectTxInputsOpts := ⟨⟨none, some 500⟩, [], []⟩

def sampleOldUtxo : Utxo := ⟨"old", 0, 100, 0.000001, "in1", "m/0/0", none, 6, false⟩

def sampleNewUtxo : Utxo := ⟨"new", 0, 2100, 0.000021, "in1", "m/0/0", none, 1, false⟩

theorem sampleZce_select :
    (sampleChain.selectEnv sampleZceTxp sampleZceOpts.toSelectOpts).select [sampleOldUtxo] [] =
        .error .insufficientFunds ∧
      (sampleChain.selectEnv sampleZceTxp sampleZceOpts.toSelectOpts).select [sampleNewUtxo] [] =
        .ok ([sampleNewUtxo], some 342) := by
  decide!

/-- With escrow de-duplication the ladder skips a group that would pay. -/
theorem selectTxInputs_skips_zce_group :
    (ladder (candidateUtxos true sampleZceTxp sampleZceOpts
          (sanitizeUtxos sampleZceTxp sampleZceOpts [sampleOldUtxo, sampleNewUtxo]))
        (fun cands => (sampleChain.selectEnv sampleZceTxp sampleZceOpts.toSelectOpts).select
          cands sampleZceTxp.inputs) ⟨[], none, none, none⟩ [6, 1, 0]).outcome =
      ([], none, some .insufficientFunds) ∧
    (plainLadder (candidateUtxos true sampleZceTxp sampleZceOpts
          (sanitizeUtxos sampleZceTxp sampleZceOpts [sampleOldUtxo, sampleNewUtxo]))
        (fun cands => (sampleChain.selectEnv sampleZceTxp sampleZceOpts.toSelectOpts).select
          cands sampleZceTxp.inputs) ⟨[], none, none, none⟩ [6, 1, 0]).outcome =
      ([sampleNewUtxo], some 342, none) ∧
    ∀ serializationError shuffle, sampleChain.selectTxInputs serializationError true shuffle
        [sampleOldUtxo, sampleNewUtxo] sampleZceTxp sampleZceOpts =
      (sampleZceTxp, some (.select .insufficientFunds)) := by
  have hsan : sanitizeUtxos sampleZceTxp sampleZceOpts [sampleOldUtxo, sampleNewUtxo] =
      [sampleOldUtxo, sampleNewUtxo] := by decide!
  have hc6 : candidateUtxos true sampleZceTxp sampleZceOpts [sampleOldUtxo, sampleNewUtxo] 6 =
      [sampleOldUtxo] := by decide!
  have hc1 : candidateUtxos true sampleZceTxp sampleZceOpts [sampleOldUtxo, sampleNewUtxo] 1 =
      [sampleNewUtxo] := by decide!
  have hc0 : candidateUtxos true sampleZceTxp sampleZceOpts [sampleOldUtxo, sampleNewUtxo] 0 =
      [sampleNewUtxo] := by decide!
  have hin : sampleZceTxp.inputs = [] := rfl
  have hladder : ladder (candidateUtxos true sampleZceTxp sampleZceOpts
        (sanitizeUtxos sampleZceTxp sampleZceOpts [sampleOldUtxo, sampleNewUtxo]))
      (fun cands => (sampleChain.selectEnv sampleZceTxp sampleZceOpts.toSelectOpts).select
        cands sampleZceTxp.inputs) ⟨[], none, none, none⟩ [6, 1, 0] =
      ⟨[], none, some .insufficientFunds, some 1⟩ := by
    simp [ladder, ladderStep, hsan, hc6, hc1, hc0, hin, sampleZce_select.1]
  refine ⟨by rw [hladder]; rfl, ?_, fun ser shuffle => ?_⟩
  · simp [plainLadder, plainStep, hsan, hc6, hc1, hin, sampleZce_select.1, sampleZce_select.2,
      LadderState.outcome]
  · have hex : sampleZceTxp.excludeUnconfirmedUtxos = false := rfl
    have htot : totalizeUtxos [sampleOldUtxo, sampleNewUtxo] = ⟨2200, 0, 2200, 0, 2200, 2200⟩ :=
      rfl
    have hamount : sampleZceTxp.getTotalAmount = 1000 := rfl
    simp only [selectTxInputs, hex, Bool.false_eq_true, if_false]
    rw [hladder]
    simp [hin, htot, hamount]

end BtcChain

end BitcoreWallet
