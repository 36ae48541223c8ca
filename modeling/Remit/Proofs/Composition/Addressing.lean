import Remit.Proofs.Address.Refusal
import Remit.Proofs.Composition.Validity

/-
  This file brings together what the check of an address is for:
  it accepts exactly the addresses of its network, tells of any
  other text the first thing that is wrong, and whatever address
  a request pays passes it.

  Key theorems include:
    * `Composition.check_of_mem_outputs`
    * `Address.check_accepts_or_refuses`
-/

namespace Remit

------------------------------------------------------------
-- Requests
------------------------------------------------------------

namespace Composition

/- A request pays trimmed addresses of rows, and these are accepted. -/
theorem check_of_mem_outputs
    {config : Config}
    {c : Composition}
    {r : Request}
    {o : Output}
    (hc : Reachable config c)
    (hr : c.validate = .ok r)
    (ho : o ∈ r.payment.outputs) :
    ∃ row ∈ c.rows, o.address = Text.trim row.address ∧
      Address.check config.network o.address = .ok () := by
  have hSound := sound_of_reachable hc
  rcases validate_eq_ok_iff.mp hr with ⟨hEmpty, rfl⟩
  rcases (isEmpty_problems_iff hSound).mp hEmpty with
    ⟨_, hPayable, _⟩
  rcases List.mem_map.mp ho with ⟨row, hRow, rfl⟩
  refine ⟨row, hRow, rfl, ?_⟩
  change Address.check config.network (Text.trim row.address) = _
  rw [Address.check_trim, Address.check_eq_ok_iff]
  exact (hPayable row hRow).address

end Composition

------------------------------------------------------------
-- Texts
------------------------------------------------------------

namespace Address

/-
  A text is accepted on a network exactly if it is an address of
  the network once it is trimmed: what the network's addresses
  start with, the digit one, and 67 to 82 characters of the
  alphabet. So it is accepted on no other network, and trimmed
  it is accepted as well; and a request pays such addresses
  only. A text that is not accepted is refused for the first
  finding.
-/
theorem check_accepts_or_refuses
    (n : Network)
    (s : String) :
    (check n s = .ok () ↔
        ∃ data,
          Text.trimList s.toList = n.lead.toList ++ '1' :: data ∧
            (∀ c ∈ data, c ∈ alphabet) ∧
            67 ≤ data.length ∧ data.length ≤ 82) ∧
      (check n s = .ok () →
        (∀ m, check m s = .ok () → m = n) ∧
          check n (Text.trim s) = .ok ()) ∧
      (∀ (config : Config) (c : Composition) (r : Request),
        Composition.Reachable config c →
          c.validate = .ok r →
            ∀ o ∈ r.payment.outputs,
              ∃ row ∈ c.rows, o.address = Text.trim row.address ∧
                check config.network o.address = .ok ()) ∧
      ∀ e,
        check n s = .error e ↔
          IsFirst (findings n (Text.trimList s.toList)) e := by
  refine ⟨?_, fun h => ⟨fun m hm => ?_, ?_⟩, ?_, fun e => ?_⟩
  · rw [check_eq_ok_iff]
    simp only [IsShielded, opening, List.append_assoc,
      List.singleton_append]
    exact Iff.rfl
  · rw [check_eq_ok_iff] at h hm
    exact hm.network_unique h
  · rw [check_trim]
    exact h
  · intro config c r hc hr o ho
    exact Composition.check_of_mem_outputs hc hr ho
  · exact check_eq_error_iff

/- An address of the main network between blanks. -/
def paddedAddress : String :=
  " " ++ Composition.specimen.address ++ "\n"

/-
  The address between blanks is accepted, and trimmed as well,
  but not on another network; and what a request for its row
  pays is accepted.
-/
theorem check_accepts_or_refuses_padded :
    (check .mainnet paddedAddress = .ok () ∧
        check .mainnet (Text.trim paddedAddress) = .ok () ∧
        ¬ check .testnet paddedAddress = .ok ()) ∧
      ∃ r,
        (Composition.after (Config.ofNetwork .mainnet)
            Composition.specimenEdits).validate = .ok r ∧
          ∀ o ∈ r.payment.outputs,
            check .mainnet o.address = .ok () := by
  have hAccepted : check .mainnet paddedAddress = .ok () := by
    decide +kernel
  have hEmpty :
      (Composition.after (Config.ofNetwork .mainnet)
        Composition.specimenEdits).problems.IsEmpty := by
    decide +kernel
  rcases check_accepts_or_refuses .mainnet paddedAddress with
    ⟨_, hHence, hPaid, _⟩
  rcases Composition.exists_validate_iff.mpr hEmpty with ⟨r, hr⟩
  have hReachable :=
    Composition.reachable_after (Config.ofNetwork .mainnet)
      Composition.specimenEdits
  refine ⟨⟨hAccepted, (hHence hAccepted).2, fun hTest => ?_⟩, r, hr, ?_⟩
  · cases (hHence hAccepted).1 .testnet hTest
  · intro o ho
    rcases hPaid _ _ r hReachable hr o ho with ⟨_, _, _, hOutput⟩
    exact hOutput

end Address

end Remit
