import ProxyTestbed.Proofs.Certificate.Grammar
import ProxyTestbed.Proofs.Certificate.Promise

/-!
# Host names that are turned away

A certificate is issued, or at least tried for, unless the host name is turned away. The regular expression decides
this with the length, and it looks at a text only up to a line feed at the end. So a name that is documented is
never turned away, and of all other texts only such names with a line feed behind them get past the check.

* `after_issue_refusal`: a name is turned away exactly if it is not accepted, before anything is asked or changed.
* `issue_refusal_iff`: which names these are.
-/

namespace ProxyTestbed.Certificate

open Hostname

variable {σ τ : Type}

/-- The host name was turned away. -/
def TurnedAway (r : Except (Fault τ) Certificate) : Prop :=
  ∃ name, r = .error (.certificate (.invalidHostname name))

variable [Host σ τ] {directory : Path} {hostname : String}

theorem after_issue_refusal (houtward : Host.Outward σ) (options : Options) (w : World σ τ) :
    After (issue directory hostname options) w fun r w' =>
      (TurnedAway r ↔ ¬ isAccepted hostname = true) ∧
        (TurnedAway r → r = .error (.certificate (.invalidHostname hostname)) ∧ w' = w) := by
  by_cases hname : isAccepted hostname = true
  · have hpasses {r : Except (Fault τ) Certificate} {w' : World σ τ} (h : ¬ TurnedAway r) :
        (TurnedAway r ↔ ¬ isAccepted hostname = true) ∧
          (TurnedAway r → r = .error (.certificate (.invalidHostname hostname)) ∧ w' = w) :=
      ⟨iff_of_false h fun hnot => hnot hname, fun hr => absurd hr h⟩
    rw [issue_eq hname]
    refine after_checkFree_bind (fun _ => after_checkFree_bind (fun _ => ?_) ?_ ?_) ?_ ?_
    · refine (raises_makeFiles houtward directory hostname options w).mono fun r w' hr => hpasses ?_
      rintro ⟨name, rfl⟩
      cases hr _ rfl
    · exact fun _ => hpasses (by simp [TurnedAway])
    · exact fun problem e _ => hpasses (by simp [TurnedAway])
    · exact fun _ => hpasses (by simp [TurnedAway])
    · exact fun problem e _ => hpasses (by simp [TurnedAway])
  · rw [issue_of_not_accepted hname]
    exact after_throw ⟨iff_of_true ⟨hostname, rfl⟩ hname, fun _ => ⟨rfl, rfl⟩⟩

/-- **Which host names are turned away.** A name gets past the check exactly if it has 1 to 253 characters and the
regular expression matches it up to a line feed at its end, so exactly if it is a documented name, or one with a
line feed behind it, of at most 253 characters with it. A name that is turned away is reported, and nothing is
asked or changed for it. The names that are not turned away are the documented ones for all texts but those with
that line feed. -/
theorem issue_refusal_iff (houtward : Host.Outward σ) (directory : Path) (hostname : String) (options : Options)
    (w : World σ τ) : After (issue directory hostname options) w fun r w' =>
      (¬ TurnedAway r ↔ 1 ≤ hostname.length ∧ hostname.length ≤ 253 ∧
        hostname.toList ∈ (pattern * lineEnd).matches') ∧
      (¬ TurnedAway r ↔ Documented hostname ∨ Trailed hostname) ∧
      (TurnedAway r → r = .error (.certificate (.invalidHostname hostname)) ∧ w' = w) ∧
      ((¬ TurnedAway r ↔ Documented hostname) ↔ ¬ Trailed hostname) := by
  refine (after_issue_refusal houtward options w).mono fun r w' ⟨haway, hleft⟩ => ?_
  have hpasses : ¬ TurnedAway r ↔ Documented hostname ∨ Trailed hostname := by
    rw [haway, not_not, isAccepted_iff]
  refine ⟨by rw [haway, not_not, isAccepted_iff_pattern], hpasses, hleft, ?_⟩
  rw [hpasses]
  constructor
  · exact fun h htrailed => htrailed.not_documented (h.mp (.inr htrailed))
  · exact fun hnot => or_iff_left hnot

/-- A name of the grammar with a line feed behind it gets a certificate. -/
theorem issue_refusal_iff_lineFeed :
    Host.Outward (Constant making) ∧ Trailed "a.test\n" ∧ ¬ Documented "a.test\n" ∧
      After (issue ⟨.root, ["tls"]⟩ "a.test\n" Options.usual) (Constant.begin : World (Constant making) Rat)
        fun r _ => ¬ TurnedAway r ∧ r.isOk = true := by
  have hname : Name ['a', '.', 't', 'e', 's', 't'] := isName_iff.mp (by decide)
  have htrailed : Trailed "a.test\n" := ⟨by decide, _, rfl, hname⟩
  have hissued : After (issue ⟨.root, ["tls"]⟩ "a.test\n" Options.usual)
      (Constant.begin : World (Constant making) Rat) fun r _ => r.isOk = true := by
    decide +kernel
  refine ⟨granting_making.outward, htrailed, htrailed.not_documented, ?_⟩
  refine (hissued.and (issue_refusal_iff granting_making.outward _ _ _ _)).mono ?_
  rintro r w' ⟨hok, -, hpasses, -⟩
  exact ⟨hpasses.mpr (.inr htrailed), hok⟩

end ProxyTestbed.Certificate
