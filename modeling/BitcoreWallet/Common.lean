import Mathlib.Data.Nat.Digits
import BitcoreWallet.Binary64

namespace BitcoreWallet

/-- `Math.round`: the nearest integer, a half rounded up. -/
def jsRound (x : ℚ) : ℤ := ⌊x + 1 / 2⌋

def jsCeil (x : ℚ) : ℤ := ⌈x⌉

theorem jsRound_le_jsCeil (x : ℚ) : jsRound x ≤ jsCeil x := by
  unfold jsRound jsCeil
  rw [Int.floor_le_iff]
  linarith [Int.le_ceil x]

theorem jsRound_le (x : ℚ) : (jsRound x : ℚ) ≤ x + 1 / 2 := Int.floor_le _

theorem lt_jsRound (x : ℚ) : x - 1 / 2 < jsRound x := by
  have := Int.lt_floor_add_one (x + 1 / 2)
  unfold jsRound
  linarith

theorem jsRound_nonneg {x : ℚ} (hx : 0 ≤ x) : 0 ≤ jsRound x :=
  Int.floor_nonneg.2 (by linarith)

@[simp] theorem jsRound_intCast (n : ℤ) : jsRound n = n := by
  unfold jsRound
  rw [Int.floor_eq_iff]
  constructor <;> linarith

theorem jsRound_le_of_le {x : ℚ} {n : ℤ} (h : x ≤ n) : jsRound x ≤ n :=
  (jsRound_le_jsCeil x).trans (Int.ceil_le.2 h)

/-- `a / b < c` as JavaScript evaluates it, the quotient rounded to a double. -/
def DivLt (a b c : ℚ) : Prop := if b = 0 then a < 0 else fl (a / b) < c

def DivGt (a b c : ℚ) : Prop := if b = 0 then 0 < a else c < fl (a / b)

instance (a b c : ℚ) : Decidable (DivLt a b c) :=
  inferInstanceAs (Decidable (if b = 0 then a < 0 else fl (a / b) < c))

instance (a b c : ℚ) : Decidable (DivGt a b c) :=
  inferInstanceAs (Decidable (if b = 0 then 0 < a else c < fl (a / b)))

instance instDecidableEqExcept {ε α : Type} [DecidableEq ε] [DecidableEq α] :
    DecidableEq (Except ε α)
  | .error a, .error b => decidable_of_iff (a = b) (by simp)
  | .ok a, .ok b => decidable_of_iff (a = b) (by simp)
  | .error _, .ok _ => isFalse (by simp)
  | .ok _, .error _ => isFalse (by simp)

theorem except_bind_eq_ok {ε α β : Type} {x : Except ε α} {f : α → Except ε β} {b : β} :
    x >>= f = .ok b ↔ ∃ a, x = .ok a ∧ f a = .ok b := by
  cases x <;> simp [bind, Except.bind]

theorem ite_error_eq_ok {ε α : Type} {c : Prop} [Decidable c] {e : ε} {r : Except ε α} {x : α}
    (h : (if c then .error e else r) = .ok x) : ¬c ∧ r = .ok x := by
  split_ifs at h with hc
  exact ⟨hc, h⟩

theorem except_map_eq_ok {ε α β : Type} {x : Except ε α} {f : α → β} {b : β} :
    x.map f = .ok b ↔ ∃ a, x = .ok a ∧ f a = b := by
  cases x <;> simp [Except.map]

theorem foldlM_measure {ε α β : Type} {f : β → α → Except ε β} (μ : β → ℕ) (d : ℕ)
    (hf : ∀ b a b', f b a = .ok b' → μ b' = μ b + d) :
    ∀ (l : List α) (b b' : β), l.foldlM f b = .ok b' → μ b' = μ b + d * l.length
  | [], b, b', h => by cases h; simp
  | a :: l, b, b', h => by
    obtain ⟨b₁, h₁, h₂⟩ := except_bind_eq_ok.1 h
    rw [foldlM_measure μ d hf l b₁ b' h₂, hf b a b₁ h₁, List.length_cons]
    ring

theorem foldlM_of_ok {ε α β : Type} {f g : β → α → Except ε β}
    (hfg : ∀ b a b', f b a = .ok b' → g b a = .ok b') :
    ∀ (l : List α) (b b' : β), l.foldlM f b = .ok b' → l.foldlM g b = .ok b'
  | [], _, _, h => h
  | a :: l, b, b', h => by
    obtain ⟨b₁, h₁, h₂⟩ := except_bind_eq_ok.1 h
    exact except_bind_eq_ok.2 ⟨b₁, hfg b a b₁ h₁, foldlM_of_ok hfg l b₁ b' h₂⟩

/-- An invariant and a measure that every step of a monadic fold keeps. -/
theorem foldlM_measure_of_inv {ε α β : Type} {f : β → α → Except ε β} (P : β → Prop)
    (μ : β → ℕ) (d : ℕ) (hf : ∀ b a b', P b → f b a = .ok b' → P b' ∧ μ b' = μ b + d) :
    ∀ (l : List α) (b b' : β), P b → l.foldlM f b = .ok b' → P b' ∧ μ b' = μ b + d * l.length
  | [], b, b', hb, h => by cases h; simp [hb]
  | a :: l, b, b', hb, h => by
    obtain ⟨b₁, h₁, h₂⟩ := except_bind_eq_ok.1 h
    obtain ⟨hb₁, e₁⟩ := hf b a b₁ hb h₁
    obtain ⟨hb', e'⟩ := foldlM_measure_of_inv P μ d hf l b₁ b' hb₁ h₂
    exact ⟨hb', by rw [e', e₁, List.length_cons]; ring⟩

def toLowerCase (s : String) : String := ⟨s.data.map Char.toLower⟩

theorem toLower_toLower (c : Char) : c.toLower.toLower = c.toLower := by
  unfold Char.toLower
  by_cases h : c.toNat ≥ 65 ∧ c.toNat ≤ 90
  · have hv : (c.toNat + 32).isValidChar := Or.inl (by omega)
    have ht : (Char.ofNat (c.toNat + 32)).toNat = c.toNat + 32 := by
      rw [Char.ofNat, dif_pos hv]
      rfl
    rw [if_pos h, ht, if_neg (by omega)]
  · rw [if_neg h, if_neg h]

@[simp] theorem toLowerCase_toLowerCase (s : String) :
    toLowerCase (toLowerCase s) = toLowerCase s := by
  simp only [toLowerCase, List.map_map]
  exact congrArg String.mk (List.map_congr_left fun c _ => toLower_toLower c)

def toUpperCase (s : String) : String := ⟨s.data.map Char.toUpper⟩

theorem append_sep_inj {α : Type} {sep : α} {a b a' b' : List α} (hb : sep ∉ b) (hb' : sep ∉ b')
    (h : a ++ sep :: b = a' ++ sep :: b') : a = a' ∧ b = b' := by
  rcases List.append_eq_append_iff.1 h with ⟨_ | ⟨x, m⟩, rfl, h₁⟩ | ⟨_ | ⟨x, m⟩, rfl, h₁⟩
  · simpa using h₁
  · obtain ⟨rfl, rfl⟩ := List.cons.inj h₁
    exact absurd (List.mem_append_right m (List.mem_cons_self sep b')) hb
  · obtain rfl : b' = b := by simpa using h₁
    simp
  · obtain ⟨rfl, rfl⟩ := List.cons.inj h₁
    exact absurd (List.mem_append_right m (List.mem_cons_self sep b)) hb'

theorem join_sep_inj (sep : Char) {a b a' b' : String} (hb : sep ∉ b.data) (hb' : sep ∉ b'.data)
    (h : a ++ sep.toString ++ b = a' ++ sep.toString ++ b') : a = a' ∧ b = b' := by
  have h' : a.data ++ sep :: b.data = a'.data ++ sep :: b'.data := by
    simpa [String.ext_iff] using h
  obtain ⟨ha, hb⟩ := append_sep_inj hb hb' h'
  exact ⟨String.ext ha, String.ext hb⟩

theorem toDigitsCore_append (fuel n : ℕ) (ds : List Char) :
    Nat.toDigitsCore 10 fuel n ds = Nat.toDigitsCore 10 fuel n [] ++ ds := by
  induction fuel generalizing n ds with
  | zero => rfl
  | succ fuel ih =>
    simp only [Nat.toDigitsCore]
    split_ifs
    · rfl
    · rw [ih _ (_ :: ds), ih _ [_]]
      simp

theorem toDigitsCore_fuel {f g n : ℕ} (hf : n < f) (hg : n < g) (ds : List Char) :
    Nat.toDigitsCore 10 f n ds = Nat.toDigitsCore 10 g n ds := by
  induction f generalizing g n ds with
  | zero => omega
  | succ f ih =>
    obtain ⟨g, rfl⟩ : ∃ g', g = g' + 1 := ⟨g - 1, by omega⟩
    simp only [Nat.toDigitsCore]
    split_ifs
    · rfl
    · exact ih (by omega) (by omega) _

theorem toDigits_ten (n : ℕ) : Nat.toDigits 10 n =
    (if n / 10 = 0 then [] else Nat.toDigits 10 (n / 10)) ++ [Nat.digitChar (n % 10)] := by
  unfold Nat.toDigits
  rw [Nat.toDigitsCore]
  split_ifs
  · rfl
  · rw [toDigitsCore_append, toDigitsCore_fuel (g := n / 10 + 1) (by omega) (by omega)]

theorem digitChar_toNat : ∀ d < 10, (Nat.digitChar d).toNat = 48 + d := by decide

theorem toNat_of_mem_toDigits {c : Char} (n : ℕ) (hc : c ∈ Nat.toDigits 10 n) :
    48 ≤ c.toNat ∧ c.toNat < 58 := by
  induction n using Nat.strong_induction_on with
  | _ n ih =>
    rw [toDigits_ten, List.mem_append, List.mem_singleton] at hc
    rcases hc with hc | rfl
    · split_ifs at hc
      · simp at hc
      · exact ih _ (by omega) hc
    · have := digitChar_toNat _ (Nat.mod_lt n (by norm_num : 10 > 0))
      omega

theorem toDigits_ne_nil (n : ℕ) : Nat.toDigits 10 n ≠ [] := by
  rw [toDigits_ten]
  simp

theorem toDigits_ten_injective : Function.Injective (Nat.toDigits 10) := by
  intro n
  induction n using Nat.strong_induction_on with
  | _ n ih =>
    intro m h
    rw [toDigits_ten, toDigits_ten m] at h
    obtain ⟨hp, hd⟩ := List.append_inj' h rfl
    have hmod : n % 10 = m % 10 := by
      have := congrArg Char.toNat (List.singleton_inj.1 hd)
      rw [digitChar_toNat _ (Nat.mod_lt n (by norm_num)),
        digitChar_toNat _ (Nat.mod_lt m (by norm_num))] at this
      omega
    split_ifs at hp with h₁ h₂ h₂
    · omega
    · exact absurd hp.symm (toDigits_ne_nil _)
    · exact absurd hp (toDigits_ne_nil _)
    · have := ih _ (by omega) hp
      omega

theorem join_sep_toString_inj (sep : Char) (hsep : sep.toNat < 48 ∨ 58 ≤ sep.toNat)
    {a a' : String} {n n' : ℕ}
    (h : a ++ sep.toString ++ toString n = a' ++ sep.toString ++ toString n') :
    a = a' ∧ n = n' := by
  have hd (m : ℕ) : sep ∉ (toString m).data := fun hm => by
    have := toNat_of_mem_toDigits m hm
    omega
  obtain ⟨ha, hn⟩ := join_sep_inj sep (hd n) (hd n') h
  exact ⟨ha, toDigits_ten_injective (congrArg String.data hn)⟩

/-- JavaScript truthiness of an optional string: present and not empty. -/
def Truthy : Option String → Prop
  | some s => s ≠ ""
  | none => False

instance : DecidablePred Truthy := fun
  | some s => inferInstanceAs (Decidable (s ≠ ""))
  | none => isFalse id

def jsOr (a b : Option String) : Option String := if Truthy a then a else b

theorem Truthy.jsOr {a b : Option String} (h : Truthy (jsOr a b)) : Truthy a ∨ Truthy b := by
  unfold BitcoreWallet.jsOr at h
  split at h
  · exact .inl ‹_›
  · exact .inr h

inductive ScriptType
  | P2SH
  | P2PKH
  | P2WSH
  | P2WPKH
  | P2TR
  deriving DecidableEq, Repr

/-- A wallet UTXO as the service stores it and proposals carry it. -/
structure Utxo where
  txid : String
  vout : ℕ
  satoshis : ℕ
  amount : ℚ
  address : String
  path : String
  publicKeys : Option (List String)
  confirmations : ℕ
  locked : Bool
  deriving DecidableEq, Repr

def utxoChains : List String := ["btc", "bch", "doge", "ltc"]

namespace Defaults

def minOutputAmount : ℕ := 546

def maxTxSizeInKbBtc : ℕ := 100

def utxoSelectionMaxSingleUtxoFactor : ℚ := 2

/-- `0.1`, the double nearest a tenth. -/
def utxoSelectionMinTxAmountVsUtxoFactor : ℚ := fl (1 / 10)

def utxoSelectionMaxFeeVsTxAmountFactor : ℚ := fl (1 / 20)

def utxoSelectionMaxFeeVsSingleUtxoFeeFactor : ℚ := 5

def coin : String := "btc"

/-- `Defaults.MAX_TX_FEE[coin]`; `none` is the `undefined` of a coin the table lacks. -/
def maxTxFee : String → Option ℕ
  | "btc" => some 5000000
  | "bch" => some 5000000
  | "doge" => some 40000000000
  | "ltc" => some 5000000
  | "eth" | "matic" | "arb" | "base" | "op" => some 1000000000000000000
  | "xrp" => some 1000000
  | _ => none

end Defaults

end BitcoreWallet
