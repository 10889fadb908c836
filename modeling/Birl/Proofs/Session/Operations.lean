import Birl.Proofs.Machine.Sound
import Birl.Session

/-!
# What the host does to a session

An operation of the host that fails leaves the session as it was, or at the point that it came
to. What holds of a session before and is kept by the changes that the operation makes holds of
it afterwards; each operation is opened here only.
-/

namespace Birl.Session

variable {I : Session → Prop} {s : Session} {name : Text} {v : Value}

theorem setGlobal_induct (h : I s)
    (hset : ∀ symbol machine, s.compiler.global? name = some symbol →
      s.machine.setGlobal symbol.address v = .ok machine → I { s with machine }) :
    I (s.setGlobal name v).1 := by
  unfold setGlobal
  split
  · exact h
  · rename_i symbol hsymbol
    split
    · exact h
    · rename_i machine hs
      exact hset symbol machine hsymbol hs

theorem getGlobal_induct (h : I s)
    (htexts : ∀ texts, s.machine.texts.Extends texts →
      I { s with machine := { s.machine with texts } }) :
    I (s.getGlobal name).1 := by
  unfold getGlobal
  split
  · exact h
  · split
    · exact h
    · rename_i hg
      obtain ⟨texts, rfl, hext⟩ := Machine.getGlobal_ok hg
      exact htexts texts hext

theorem registerGlobal_induct {readOnly : Bool} (h : I s)
    (hdeclared : ∀ address compiler, s.compiler.declareGlobal name readOnly = .ok (address, compiler) →
      I { s with compiler })
    (hset : ∀ (address : Nat) compiler machine, I { s with compiler } →
      s.machine.setGlobal address v = .ok machine → I { s with compiler, machine }) :
    I (s.registerGlobal name v readOnly).1 := by
  unfold registerGlobal
  split
  · exact h
  · rename_i address compiler hd
    have hdeclared := hdeclared address compiler hd
    simp only
    split
    · exact hdeclared
    · rename_i machine hs
      exact hset address compiler machine hdeclared hs

theorem registerPlugin_induct {params : List ParameterKind} {call : Callback} (h : I s)
    (hadded : I { s with machine := (s.machine.addPlugin { name, params, call }).2 })
    (hregistered : ∀ compiler,
      s.compiler.registerPlugin name params s.machine.plugins.size = .ok compiler →
        I { s with machine := (s.machine.addPlugin { name, params, call }).2, compiler }) :
    I (s.registerPlugin name params (some call)).1 := by
  unfold registerPlugin
  simp only
  split
  · exact h
  · split
    · exact hadded
    · rename_i compiler hr
      exact hregistered compiler hr

end Birl.Session
