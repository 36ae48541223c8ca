import Remit.Payment
import Remit.Proofs.Bytes.Base64
import Remit.Proofs.Scope.Text
import Remit.Proofs.Text.Separated

/-
  This file shows how much of a payment its canonical text
  tells, and what follows from equal fingerprints when the
  digests of two texts differ.

  Key definitions include:
    * `Payment.outputChars`
    * `Sha256.Separates`

  Key theorems include:
    * `Payment.canonicalText_heads`
    * `Payment.canonicalText_of_fingerprint`
    * `Payment.eq_of_fingerprint`
-/

namespace Remit

namespace Network

/- Networks can be told from their names. -/
theorem name_injective :
    Function.Injective name := by
  intro m n h
  cases m <;> cases n <;> first | rfl | exact absurd h (by decide)

/- The name of a network is on one line. -/
theorem not_mem_name
    (n : Network) :
    '\n' ∉ n.name.toList := by
  cases n <;> decide

end Network

namespace Payment

/- Payments with the same parts are the same. -/
@[ext]
theorem ext
    {p q : Payment}
    (hNetwork : p.network = q.network)
    (hOutputs : p.outputs = q.outputs)
    (hFee : p.fee = q.fee)
    (hScope : p.scope = q.scope) :
    p = q := by
  cases p
  cases q
  cases hNetwork
  cases hOutputs
  cases hFee
  cases hScope
  rfl

------------------------------------------------------------
-- Lines
------------------------------------------------------------

/- The characters of the lines for the outputs. -/
def outputChars (p : Payment) : List Char :=
  p.outputs.flatMap (fun o => ("output=" ++ o.text ++ "\n").toList)

/- The lines of the canonical text, each before its end. -/
theorem toList_canonicalText
    (p : Payment) :
    p.canonicalText.toList =
      ("network=" ++ p.network.name).toList ++
        '\n' :: (("scope=" ++ p.scope.text).toList ++
          '\n' :: (("fee=" ++ Numeral.ofNat p.fee.units).toList ++
            '\n' :: p.outputChars)) := by
  simp [canonicalText, lines, outputChars, String.toList_join,
    List.flatMap_map]

/- A name and its value without an end of line are on one line. -/
private theorem not_mem_line
    {name value : String}
    (hName : '\n' ∉ name.toList)
    (hValue : '\n' ∉ value.toList) :
    '\n' ∉ (name ++ value).toList := by
  rw [String.toList_append, List.mem_append]
  exact not_or.mpr ⟨hName, hValue⟩

/-
  The canonical text tells the network, the scope and the fee,
  and the lines of the outputs.
-/
theorem canonicalText_heads
    {p q : Payment}
    (h : p.canonicalText = q.canonicalText) :
    p.network = q.network ∧
      p.scope = q.scope ∧
      p.fee = q.fee ∧
      p.outputChars = q.outputChars := by
  have hNetwork : ∀ n : Network,
      '\n' ∉ ("network=" ++ n.name).toList :=
    fun n => not_mem_line (by decide) n.not_mem_name
  have hScope : ∀ s : Scope,
      '\n' ∉ ("scope=" ++ s.text).toList :=
    fun s => not_mem_line (by decide) s.not_mem_text
  have hFee : ∀ a : Amount,
      '\n' ∉ ("fee=" ++ Numeral.ofNat a.units).toList :=
    fun a =>
      not_mem_line (by decide)
        (Numeral.not_mem_ofNat (by decide) a.units)
  have hList := congrArg String.toList h
  rw [toList_canonicalText, toList_canonicalText] at hList
  rcases Text.append_sep_inj (hNetwork _) (hNetwork _) hList with
    ⟨hNames, hList⟩
  rcases Text.append_sep_inj (hScope _) (hScope _) hList with
    ⟨hScopes, hList⟩
  rcases Text.append_sep_inj (hFee _) (hFee _) hList with
    ⟨hFees, hOutputs⟩
  have hName := (String.append_right_inj _).mp (String.ext hNames)
  have hText := (String.append_right_inj _).mp (String.ext hScopes)
  have hUnits := (String.append_right_inj _).mp (String.ext hFees)
  refine
    ⟨Network.name_injective hName, Scope.text_injective hText, ?_,
      hOutputs⟩
  exact
    Amount.ext
      (Numeral.toList_ofNat_inj (congrArg String.toList hUnits))

end Payment

------------------------------------------------------------
-- Fingerprints
------------------------------------------------------------

/- No two of these texts have the same digest. -/
def Sha256.Separates (texts : List String) : Prop :=
  ∀ s ∈ texts, ∀ t ∈ texts,
    Sha256.digest (Utf8.encode s) = Sha256.digest (Utf8.encode t) →
      s = t

/- A text shares its digest with no text but itself. -/
theorem Sha256.separates_of_eq
    {texts : List String}
    {s : String}
    (h : ∀ t ∈ texts, t = s) :
    Sha256.Separates texts := by
  intro t ht u hu _
  rw [h t ht, h u hu]

/- Neither do two texts that are the same. -/
theorem Sha256.separates_pair
    {s t : String}
    (h : s = t) :
    Sha256.Separates [s, t] := by
  subst h
  exact Sha256.separates_of_eq (s := s) (by simp)

/-
  Equal fingerprints stem from equal canonical texts, unless
  these share a digest.
-/
theorem Payment.canonicalText_of_fingerprint
    {p q : Payment}
    {texts : List String}
    (hSeparates : Sha256.Separates texts)
    (hp : p.canonicalText ∈ texts)
    (hq : q.canonicalText ∈ texts)
    (h : p.fingerprint = q.fingerprint) :
    p.canonicalText = q.canonicalText := by
  apply hSeparates _ hp _ hq
  exact Base64.encode_injective h

/- Payments of the same outputs are told by their fingerprints. -/
theorem Payment.eq_of_fingerprint
    {p q : Payment}
    {payments : List Payment}
    (hSeparates :
      Sha256.Separates (payments.map Payment.canonicalText))
    (hp : p ∈ payments)
    (hq : q ∈ payments)
    (hOutputs : p.outputs = q.outputs)
    (h : p.fingerprint = q.fingerprint) :
    p = q := by
  have hText : p.canonicalText = q.canonicalText := by
    apply Payment.canonicalText_of_fingerprint hSeparates
    · exact List.mem_map_of_mem hp
    · exact List.mem_map_of_mem hq
    · exact h
  rcases Payment.canonicalText_heads hText with
    ⟨hNetwork, hScope, hFee, _⟩
  exact Payment.ext hNetwork hOutputs hFee hScope

end Remit
