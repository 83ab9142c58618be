import Mathlib.Data.String.Basic
import BitcoreWallet.BtcChain.SelectTxInputs

namespace BitcoreWallet

section JsObject

variable {α β : Type}

def setKey : List (String × α) → String → α → List (String × α)
  | [], k, v => [(k, v)]
  | (k', v') :: rest, k, v => if k' = k then (k, v) :: rest else (k', v') :: setKey rest k v

def getKey (obj : List (String × α)) (k : String) : Option α :=
  (obj.find? (·.1 = k)).map (·.2)

/-- `_.keyBy(collection, iteratee)`: each key to the last element of that key. -/
def keyBy (key : α → String) (l : List α) : List (String × α) :=
  l.foldl (fun obj a => setKey obj (key a) a) []

theorem getKey_cons (k' k : String) (v : α) (obj : List (String × α)) :
    getKey ((k', v) :: obj) k = if k' = k then some v else getKey obj k := by
  by_cases h : k' = k <;> simp [getKey, h]

theorem getKey_setKey (obj : List (String × α)) (k : String) (v : α) (k' : String) :
    getKey (setKey obj k v) k' = if k = k' then some v else getKey obj k' := by
  induction obj with
  | nil => simp [setKey, getKey_cons, getKey]
  | cons kv obj ih =>
    obtain ⟨k'', w⟩ := kv
    by_cases h : k'' = k
    · subst h
      simp only [setKey, if_true, getKey_cons]
      split_ifs <;> rfl
    · simp only [setKey, h, if_false, getKey_cons, ih]
      split_ifs with h₁ h₂ <;> first | rfl | exact absurd (h₁.trans h₂.symm) h

theorem keys_setKey (obj : List (String × α)) (k : String) (v : α) :
    (setKey obj k v).map (·.1) =
      if k ∈ obj.map (·.1) then obj.map (·.1) else obj.map (·.1) ++ [k] := by
  induction obj with
  | nil => simp [setKey]
  | cons kv obj ih =>
    by_cases h : kv.1 = k
    · simp [setKey, h]
    · simp only [setKey, h, if_false, List.map_cons, ih, List.mem_cons, Ne.symm h, false_or]
      split_ifs <;> rfl

theorem sum_setKey (f : α → ℕ) {obj : List (String × α)} {k : String} {e : α}
    (he : getKey obj k = some e) (v : α) :
    ((setKey obj k v).map (f ·.2)).sum + f e = (obj.map (f ·.2)).sum + f v := by
  induction obj with
  | nil => simp [getKey] at he
  | cons kv obj ih =>
    rw [getKey_cons] at he
    by_cases h : kv.1 = k
    · rw [if_pos h, Option.some_inj] at he
      subst he
      simp only [setKey, h, if_true, List.map_cons, List.sum_cons]
      omega
    · rw [if_neg h] at he
      simp only [setKey, h, if_false, List.map_cons, List.sum_cons]
      linarith [ih he]

theorem getKey_of_mem {obj : List (String × α)} (hnd : (obj.map (·.1)).Nodup)
    {kv : String × α} (h : kv ∈ obj) : getKey obj kv.1 = some kv.2 := by
  induction obj with
  | nil => simp at h
  | cons kv' obj ih =>
    rw [List.map_cons, List.nodup_cons] at hnd
    rw [getKey_cons]
    rcases List.mem_cons.1 h with rfl | h
    · simp
    · have hne : kv'.1 ≠ kv.1 := fun he => hnd.1 (he ▸ List.mem_map_of_mem _ h)
      rw [if_neg hne, ih hnd.2 h]

theorem foldl_setKey (g : String × α → β) :
    ∀ (K : List (String × α)) (obj : List (String × β)), (obj.map (·.1) ++ K.map (·.1)).Nodup →
      K.foldl (fun o kv => setKey o kv.1 (g kv)) obj = obj ++ K.map fun kv => (kv.1, g kv)
  | [], obj, _ => by simp
  | kv :: K, obj, hnd => by
    have hnew : setKey obj kv.1 (g kv) = obj ++ [(kv.1, g kv)] := by
      have hk : kv.1 ∉ obj.map (·.1) := fun hk =>
        (List.nodup_append.1 hnd).2.2 hk (List.mem_cons_self _ _)
      clear hnd
      induction obj with
      | nil => rfl
      | cons kv' obj ih =>
        simp only [List.map_cons, List.mem_cons, not_or] at hk
        simp [setKey, Ne.symm hk.1, ih hk.2]
    rw [List.foldl_cons, hnew, foldl_setKey g K _ (by simpa using hnd)]
    simp

theorem keyBy_append (key : α → String) (l : List α) (a : α) :
    keyBy key (l ++ [a]) = setKey (keyBy key l) (key a) a := by
  simp [keyBy, List.foldl_append]

theorem getKey_keyBy (key : α → String) (l : List α) (k : String) :
    getKey (keyBy key l) k = (l.filter (key · = k)).getLast? := by
  induction l using List.reverseRecOn with
  | nil => rfl
  | append_singleton l a ih =>
    rw [keyBy_append, getKey_setKey, ih, List.filter_append]
    by_cases h : key a = k <;> simp [h]

theorem mem_keys_keyBy {key : α → String} {l : List α} {k : String} :
    k ∈ (keyBy key l).map (·.1) ↔ ∃ a ∈ l, key a = k := by
  induction l using List.reverseRecOn with
  | nil => simp [keyBy]
  | append_singleton l a ih =>
    have hr : (∃ x ∈ l ++ [a], key x = k) ↔ (∃ x ∈ l, key x = k) ∨ key a = k := by
      simp [or_and_right, exists_or]
    rw [keyBy_append, keys_setKey, hr, ← ih]
    split_ifs with ha
    · exact ⟨.inl, fun h => h.elim id fun he => he ▸ ha⟩
    · rw [List.mem_append, List.mem_singleton, eq_comm (a := k)]

theorem keys_keyBy_sorted {key : α → String} {l : List α}
    (hl : l.Pairwise fun a b => key a ≤ key b) : ((keyBy key l).map (·.1)).Pairwise (· < ·) := by
  induction l using List.reverseRecOn with
  | nil => exact List.Pairwise.nil
  | append_singleton l a ih =>
    obtain ⟨hl, -, hle⟩ := List.pairwise_append.1 hl
    rw [keyBy_append, keys_setKey]
    split_ifs with ha
    · exact ih hl
    · refine List.pairwise_append.2 ⟨ih hl, List.pairwise_singleton _ _, fun k hk b hb => ?_⟩
      rw [List.mem_singleton.1 hb]
      obtain ⟨x, hx, rfl⟩ := mem_keys_keyBy.1 hk
      exact lt_of_le_of_ne (hle x hx a (List.mem_singleton_self a)) fun he => ha (he ▸ hk)

end JsObject

structure AddressBalance where
  address : String
  path : String
  amount : ℕ
  deriving DecidableEq, Repr

structure WalletBalance extends Balance where
  byAddress : List AddressBalance
  deriving DecidableEq, Repr

namespace BtcChain

section Checks

variable (c : BtcChain)

def addAmount (byAddress : List (String × AddressBalance)) (utxo : Utxo) :
    Option (List (String × AddressBalance)) :=
  (getKey byAddress utxo.address).map fun e =>
    setKey byAddress utxo.address { e with amount := e.amount + utxo.satoshis }

/-- `getWalletBalance` on the fetched UTXOs: the totals, then a balance per address. -/
def getWalletBalance (utxos : List Utxo) : Option WalletBalance := do
  let index := keyBy (·.address) (utxos.insertionSort fun a b => a.address ≤ b.address)
  let byAddress := index.foldl (fun byAddress kv => setKey byAddress kv.1 ⟨kv.1, kv.2.path, 0⟩) []
  let byAddress ← utxos.foldlM addAmount byAddress
  pure { totalizeUtxos utxos with byAddress := byAddress.map (·.2) }

/-- `checkTxUTXOs` on the fetched UTXOs: the error it hands to its callback. -/
def checkTxUTXOs (txp : TxProposal) (utxos : List Utxo) : Except String Unit :=
  if txp.replaceTxByFee then .ok ()
  else
    let txpInputs := txp.inputs.map utxoKey
    let utxosIndex := keyBy utxoKey utxos
    let unavailable := txpInputs.any fun i =>
      match getKey utxosIndex i with
      | some utxo => utxo.locked
      | none => true
    if unavailable then .error "UNAVAILABLE_UTXOS" else .ok ()
where
  utxoKey (utxo : Utxo) : String := utxo.txid ++ "|" ++ toString utxo.vout

def checkDust (output : TxOutput) : Option String :=
  if output.amount < max Defaults.minOutputAmount c.bitcoreLib.dustAmount then some "DUST_AMOUNT"
  else none

def checkScriptOutput (output : TxOutput) : Option String :=
  if Truthy output.script then
    if ¬(output.script.getD "").startsWith "6a" then some "SCRIPT_OP_RETURN"
    else if output.amount ≠ 0 then some "SCRIPT_OP_RETURN_AMOUNT"
    else none
  else none

def checkValidTxAmount (output : TxOutput) : Bool := decide (0 < output.amount)

end Checks

section Balance

variable {utxos : List Utxo} {keys : List String}

/-- `byAddress` once the UTXOs `p` are added: one entry per key, with its sum. -/
structure Tally (utxos : List Utxo) (keys : List String) (p : List Utxo)
    (byAddress : List (String × AddressBalance)) : Prop where
  keys_eq : byAddress.map (·.1) = keys
  entry : ∀ k ∈ keys, ∃ e, getKey byAddress k = some e ∧ e.address = k ∧
    (∃ u ∈ utxos, u.address = k ∧ u.path = e.path) ∧
    e.amount = ((p.filter (·.address = k)).map (·.satoshis)).sum
  sum_eq : (byAddress.map (·.2.amount)).sum = (p.map (·.satoshis)).sum

theorem Tally.step {p : List Utxo} {byAddress : List (String × AddressBalance)}
    (h : Tally utxos keys p byAddress) {u : Utxo} (hu : u.address ∈ keys) :
    ∃ b, addAmount byAddress u = some b ∧ Tally utxos keys (p ++ [u]) b := by
  obtain ⟨e, he, hea, hep, hamt⟩ := h.entry _ hu
  have hsum := sum_setKey AddressBalance.amount he { e with amount := e.amount + u.satoshis }
  refine ⟨_, by rw [BtcChain.addAmount, he]; rfl, ?_, fun k hk => ?_, ?_⟩
  · rw [keys_setKey, if_pos (h.keys_eq ▸ hu), h.keys_eq]
  · rw [getKey_setKey]
    split_ifs with hk'
    · subst hk'
      exact ⟨_, rfl, hea, hep, by simp [hamt, List.filter_append]⟩
    · obtain ⟨e', he', h₁, h₂, h₃⟩ := h.entry k hk
      exact ⟨e', he', h₁, h₂, by simp [h₃, List.filter_append, hk']⟩
  · simp only [List.map_append, List.sum_append, List.map_singleton, List.sum_singleton,
      ← h.sum_eq]
    dsimp only at hsum
    omega

theorem Tally.run :
    ∀ (r p : List Utxo) (byAddress : List (String × AddressBalance)),
      (∀ u ∈ r, u.address ∈ keys) → Tally utxos keys p byAddress →
      ∃ b, r.foldlM addAmount byAddress = some b ∧ Tally utxos keys (p ++ r) b
  | [], p, byAddress, _, h => ⟨byAddress, rfl, by simpa using h⟩
  | u :: r, p, byAddress, hr, h => by
    obtain ⟨b, hb, ht⟩ := h.step (hr u (List.mem_cons_self _ _))
    obtain ⟨b', hb', ht'⟩ :=
      Tally.run r (p ++ [u]) b (fun v hv => hr v (List.mem_cons_of_mem _ hv)) ht
    exact ⟨b', by simp [List.foldlM_cons, hb, hb'], by simpa using ht'⟩

theorem Tally.mem {p : List Utxo} {byAddress : List (String × AddressBalance)}
    (h : Tally utxos keys p byAddress) (hnd : keys.Nodup) {kv : String × AddressBalance}
    (hkv : kv ∈ byAddress) :
    kv.2.address = kv.1 ∧ (∃ u ∈ utxos, u.address = kv.1 ∧ u.path = kv.2.path) ∧
      kv.2.amount = ((p.filter (·.address = kv.1)).map (·.satoshis)).sum := by
  obtain ⟨e, he, h₁, h₂, h₃⟩ := h.entry kv.1 (h.keys_eq ▸ List.mem_map_of_mem _ hkv)
  rw [getKey_of_mem (h.keys_eq ▸ hnd) hkv, Option.some_inj] at he
  subst he
  exact ⟨h₁, h₂, h₃⟩

theorem tally_index {utxos sorted : List Utxo} (hperm : sorted.Perm utxos)
    (hnd : ((keyBy (·.address) sorted).map (·.1)).Nodup) :
    Tally utxos ((keyBy (·.address) sorted).map (·.1)) []
      ((keyBy (·.address) sorted).foldl
        (fun byAddress kv => setKey byAddress kv.1 ⟨kv.1, kv.2.path, 0⟩) []) := by
  rw [foldl_setKey _ _ _ (by simpa using hnd), List.nil_append]
  refine ⟨by simp, fun k hk => ?_, by simp [Function.comp_def]⟩
  obtain ⟨kv, hkv, rfl⟩ := List.mem_map.1 hk
  have hlast := getKey_keyBy (·.address) sorted kv.1
  rw [getKey_of_mem hnd hkv] at hlast
  obtain ⟨hu, hua⟩ := List.mem_filter.1 (List.mem_of_getLast?_eq_some hlast.symm)
  refine ⟨_, getKey_of_mem (by simpa using hnd) (List.mem_map_of_mem _ hkv), rfl,
    ⟨kv.2, hperm.subset hu, by simpa using hua, rfl⟩, by simp⟩

theorem totalizeUtxos_available (utxos : List Utxo) :
    (totalizeUtxos utxos).availableAmount + (totalizeUtxos utxos).lockedAmount =
        (totalizeUtxos utxos).totalAmount ∧
      (totalizeUtxos utxos).availableConfirmedAmount +
          (totalizeUtxos utxos).lockedConfirmedAmount =
        (totalizeUtxos utxos).totalConfirmedAmount := by
  have hle {l l' : List Utxo} (h : l.Sublist l') :
      (l.map (·.satoshis)).sum ≤ (l'.map (·.satoshis)).sum :=
    (h.map _).sum_le_sum fun _ _ => Nat.zero_le _
  exact ⟨Nat.sub_add_cancel (hle (List.filter_sublist _)),
    Nat.sub_add_cancel (hle ((List.filter_sublist _).filter _))⟩

end Balance

/-- `getWalletBalance` never throws and accounts for every address once. -/
theorem getWalletBalance_byAddress (utxos : List Utxo) :
    ∃ b, getWalletBalance utxos = some b ∧ b.toBalance = totalizeUtxos utxos ∧
      (b.byAddress.map (·.address)).Pairwise (· < ·) ∧
      (∀ a, a ∈ b.byAddress.map (·.address) ↔ ∃ u ∈ utxos, u.address = a) ∧
      (∀ e ∈ b.byAddress,
        e.amount = ((utxos.filter (·.address = e.address)).map (·.satoshis)).sum ∧
          ∃ u ∈ utxos, u.address = e.address ∧ u.path = e.path) ∧
      (b.byAddress.map (·.amount)).sum = b.totalAmount ∧
      b.availableAmount + b.lockedAmount = b.totalAmount ∧
      b.availableConfirmedAmount + b.lockedConfirmedAmount = b.totalConfirmedAmount := by
  have htot : IsTotal Utxo fun a b => a.address ≤ b.address := ⟨fun a b => le_total _ _⟩
  have htrans : IsTrans Utxo fun a b => a.address ≤ b.address := ⟨fun _ _ _ => le_trans⟩
  have hperm := List.perm_insertionSort (fun a b : Utxo => a.address ≤ b.address) utxos
  have hsorted := keys_keyBy_sorted
    (List.sorted_insertionSort (fun a b : Utxo => a.address ≤ b.address) utxos)
  have hnd := hsorted.imp ne_of_lt
  have hmem (a : String) : a ∈ (keyBy (·.address)
      (utxos.insertionSort fun a b => a.address ≤ b.address)).map (·.1) ↔
        ∃ u ∈ utxos, u.address = a :=
    mem_keys_keyBy.trans (by simp only [hperm.mem_iff])
  obtain ⟨b, hb, ht⟩ :=
    Tally.run utxos [] _ (fun u hu => (hmem _).2 ⟨u, hu, rfl⟩) (tally_index hperm hnd)
  have haddr : (b.map (·.2)).map (·.address) = b.map (·.1) := by
    rw [List.map_map]
    exact List.map_congr_left fun kv hkv => (ht.mem hnd hkv).1
  refine ⟨_, by simp only [getWalletBalance, hb]; rfl, rfl, ?_, ?_, ?_, ?_,
    totalizeUtxos_available utxos⟩
  · rw [haddr, ht.keys_eq]
    exact hsorted
  · intro a
    rw [haddr, ht.keys_eq, hmem]
  · intro e he
    obtain ⟨kv, hkv, rfl⟩ := List.mem_map.1 he
    obtain ⟨h₁, h₂, h₃⟩ := ht.mem hnd hkv
    rw [h₁]
    exact ⟨by simpa using h₃, h₂⟩
  · simpa [List.map_map, Function.comp_def] using ht.sum_eq

theorem utxoKey_eq_iff {u v : Utxo} :
    checkTxUTXOs.utxoKey u = checkTxUTXOs.utxoKey v ↔ u.txid = v.txid ∧ u.vout = v.vout := by
  refine ⟨fun h => join_sep_toString_inj '|' (by decide) h, fun ⟨h₁, h₂⟩ => ?_⟩
  simp only [checkTxUTXOs.utxoKey, h₁, h₂]

theorem getKey_utxosIndex (utxos : List Utxo) (i : Utxo) :
    getKey (keyBy checkTxUTXOs.utxoKey utxos) (checkTxUTXOs.utxoKey i) =
      (utxos.filter fun u => u.txid = i.txid ∧ u.vout = i.vout).getLast? := by
  rw [getKey_keyBy]
  congr 1
  exact List.filter_congr fun u _ => decide_eq_decide.2 utxoKey_eq_iff

theorem checkTxUTXOs_eq (txp : TxProposal) (utxos : List Utxo) :
    checkTxUTXOs txp utxos =
      if txp.replaceTxByFee = true ∨ ∀ i ∈ txp.inputs, ∃ u,
          (utxos.filter fun u => u.txid = i.txid ∧ u.vout = i.vout).getLast? = some u ∧
            u.locked = false
      then .ok () else .error "UNAVAILABLE_UTXOS" := by
  unfold checkTxUTXOs
  by_cases hr : txp.replaceTxByFee
  · simp [hr]
  · have hav (o : Option Utxo) :
        (match o with | some utxo => utxo.locked | none => true) = true ↔
          ¬∃ u, o = some u ∧ u.locked = false := by
      cases o <;> simp
    rw [if_neg (by simpa using hr)]
    dsimp only
    simp only [List.any_eq_true, List.mem_map, exists_exists_and_eq_and, getKey_utxosIndex, hav,
      hr, Bool.false_eq_true, false_or]
    split_ifs with h₁ h₂ h₂
    · obtain ⟨a, ha, hna⟩ := h₁
      exact absurd (h₂ a ha) hna
    · rfl
    · rfl
    · exact absurd (fun a ha => by_contra fun hna => h₁ ⟨a, ha, hna⟩) h₂

/-- The publish-time recheck accepts exactly inputs that are fetched and unlocked. -/
theorem checkTxUTXOs_eq_ok_iff (txp : TxProposal) (utxos : List Utxo) :
    checkTxUTXOs txp utxos = .ok () ↔ txp.replaceTxByFee = true ∨ ∀ i ∈ txp.inputs, ∃ u,
      (utxos.filter fun u => u.txid = i.txid ∧ u.vout = i.vout).getLast? = some u ∧
        u.locked = false := by
  rw [checkTxUTXOs_eq]
  split_ifs with h
  exacts [iff_of_true rfl h, iff_of_false id h]

example :
    checkTxUTXOs { sampleTxp with inputs := [SelectEnv.sampleSmallUtxo] }
      [SelectEnv.sampleSmallUtxo, { SelectEnv.sampleSmallUtxo with locked := true }] =
      .error "UNAVAILABLE_UTXOS" := by decide

theorem getLast?_outpoint {utxos : List Utxo} (hnodup : (utxos.map fun u => (u.txid, u.vout)).Nodup)
    {i : Utxo} (hi : i ∈ utxos) :
    (utxos.filter fun u => u.txid = i.txid ∧ u.vout = i.vout).getLast? = some i := by
  have hne : utxos.filter (fun u => u.txid = i.txid ∧ u.vout = i.vout) ≠ [] :=
    List.ne_nil_of_mem (List.mem_filter.2 ⟨hi, by simp⟩)
  obtain ⟨hu, hkey⟩ := List.mem_filter.1 (List.getLast_mem hne)
  rw [List.getLast?_eq_getLast _ hne, List.inj_on_of_nodup_map hnodup hu hi (by simpa using hkey)]

variable {c : BtcChain}

theorem selectTxInputs_inputs
    (serializationError : Transaction → Bool → Option SerializationError) (isZceCompatible : Bool)
    {shuffle : List Utxo → List Utxo} (hshuffle : ∀ l, (shuffle l).Perm l)
    {utxos : List Utxo} {txp : TxProposal} {opts : SelectTxInputsOpts}
    (hnodup : (utxos.map fun u => (u.txid, u.vout)).Nodup)
    (hsel : txp.inputs = [] ∨ txp.replaceTxByFee = true) :
    (c.selectTxInputs serializationError isZceCompatible shuffle utxos txp opts).1.replaceTxByFee =
        txp.replaceTxByFee ∧
      ((c.selectTxInputs serializationError isZceCompatible shuffle utxos txp opts).1.inputs =
          txp.inputs ∨
        WellChosen utxos txp opts
          (c.selectTxInputs serializationError isZceCompatible shuffle utxos txp
            opts).1.inputs) := by
  have hmode : ¬(txp.inputs ≠ [] ∧ ¬txp.replaceTxByFee) := fun ⟨h₁, h₂⟩ => hsel.elim h₁ h₂
  generalize hr : c.selectTxInputs serializationError isZceCompatible shuffle utxos txp opts = r
  rw [selectTxInputs, if_neg hmode] at hr
  generalize (if txp.excludeUnconfirmedUtxos then [6, 1] else [6, 1, 0]) = groups at hr
  dsimp only at hr
  split_ifs at hr <;> subst hr <;> first
    | exact ⟨rfl, .inl rfl⟩
    | (rw [checkTx_fst]
       exact ⟨rfl, .inr (wellChosen_of_ladder hshuffle hnodup (not_or.1 ‹_›).2)⟩)

/-- Coin selection and the publish-time recheck agree. -/
theorem checkTxUTXOs_selectTxInputs
    (serializationError : Transaction → Bool → Option SerializationError) (isZceCompatible : Bool)
    {shuffle : List Utxo → List Utxo} (hshuffle : ∀ l, (shuffle l).Perm l)
    {utxos : List Utxo} {txp : TxProposal} {opts : SelectTxInputsOpts}
    (hnodup : (utxos.map fun u => (u.txid, u.vout)).Nodup)
    (hsel : txp.inputs = [] ∨ txp.replaceTxByFee = true) :
    checkTxUTXOs (c.selectTxInputs serializationError isZceCompatible shuffle utxos txp opts).1
      utxos = .ok () := by
  obtain ⟨hrbf, hin⟩ :=
    @selectTxInputs_inputs c serializationError isZceCompatible shuffle hshuffle utxos txp opts
      hnodup hsel
  rw [checkTxUTXOs_eq, if_pos]
  rcases hsel with h | h
  · refine .inr fun i hi => ?_
    rcases hin with hin | hwc
    · exact absurd (hin ▸ hi) (h ▸ List.not_mem_nil i)
    · exact ⟨i, getLast?_outpoint hnodup (hwc.mem i hi), hwc.unlocked i hi⟩
  · exact .inl (hrbf.trans h)

theorem checkTxUTXOs_selectTxInputs_sample :
    (sampleChain.selectTxInputs (fun _ _ => none) false id sampleWalletUtxos sampleTxp
        sampleWalletOpts).1.inputs = [SelectEnv.sampleFirstInput, SelectEnv.sampleLastInput] ∧
    (∀ l : List Utxo, (id l).Perm l) ∧
    (sampleWalletUtxos.map fun u => (u.txid, u.vout)).Nodup ∧
    (sampleTxp.inputs = [] ∨ sampleTxp.replaceTxByFee = true) ∧
    checkTxUTXOs (sampleChain.selectTxInputs (fun _ _ => none) false id sampleWalletUtxos
      sampleTxp sampleWalletOpts).1 sampleWalletUtxos = .ok () :=
  ⟨by decide!, List.Perm.refl, by decide, .inl rfl,
    checkTxUTXOs_selectTxInputs _ false List.Perm.refl (by decide) (.inl rfl)⟩

end BtcChain

end BitcoreWallet
