import Nadi.Effect.SideBySide
import Nadi.Model.Programs

/-!
# Handlers with two tokens

A handler looks at its token through `verify` only, and at nothing else that two
runs may differ in but the file system. Where verifying either token comes out
the same (`TokensAlike`), so does handling a command with either.
-/

namespace Nadi

open Effect

variable {T σ : Type} [Field T] [LinearOrder T] [IsStrictOrderedRing T] [FloorRing T] {py : Py}
  {h : Handler (Call T) Call.Ret PyErr σ} {I E : σ → σ → Prop} {s : Sandboxd}
  {sid token token' : String}

variable (py h I E s sid token token') in
/-- The calls of a handler keep `I`, with one token on either side. -/
structure TokensAlike : Prop where
  verify : SideBySide h I (fun _ _ => I) E (s.jwt.verify py token sid "tool")
    (s.jwt.verify py token' sid "tool")
  audit : ∀ actor action payload, SideBySide h I (fun _ _ => I) E
    (call (.audit actor action (some sid) payload)) (call (.audit actor action (some sid) payload))
  files : SideBySide h I (fun a b s t => a = b ∧ I s t) E (call .files) (call .files)
  raise : ∀ s t, I s t → E s t

namespace TokensAlike

/-- The same is computed on both sides. -/
theorem ofExcept {α : Type} (tokens : TokensAlike py h I E s sid token token')
    (x : Except PyErr α) :
    SideBySide h I (fun a b s t => a = b ∧ I s t) E (Prog.ofExcept x) (Prog.ofExcept x) := by
  cases x with
  | ok a => exact SideBySide.pure fun _ _ hI => ⟨rfl, hI⟩
  | error e => exact SideBySide.throw tokens.raise

theorem exchange (tokens : TokensAlike py h I E s sid token token') (audience : String) :
    SideBySide h I (fun a b s t => a = b ∧ I s t) E (s.exchange py sid token audience)
      (s.exchange py sid token' audience) := by
  refine tokens.verify.bind fun _ _ => ?_
  refine (tokens.audit _ _ _).bind fun _ _ => ?_
  exact SideBySide.pure fun _ _ hI => ⟨rfl, hI⟩

theorem runTool (tokens : TokensAlike py h I E s sid token token') (name : String) (args : Json) :
    SideBySide h I (fun a b s t => a = b ∧ I s t) E (s.runTool py sid token name args)
      (s.runTool py sid token' name args) := by
  unfold Sandboxd.runTool
  by_cases hecho : name = "echo"
  · rw [if_pos hecho, if_pos hecho]
    exact SideBySide.ofExcept_bind (fun _ => SideBySide.pure fun _ _ hI => ⟨rfl, hI⟩) tokens.raise
  rw [if_neg hecho, if_neg hecho]
  by_cases hupper : name = "uppercase"
  · rw [if_pos hupper, if_pos hupper]
    exact SideBySide.ofExcept_bind (fun _ => SideBySide.pure fun _ _ hI => ⟨rfl, hI⟩) tokens.raise
  rw [if_neg hupper, if_neg hupper]
  by_cases hlist : name = "list_files"
  · rw [if_pos hlist, if_pos hlist]
    refine SideBySide.ofExcept_bind (fun rel => ?_) tokens.raise
    refine tokens.files.bind fun files _ => SideBySide.of_prop fun heq => ?_
    exact heq ▸ tokens.ofExcept _
  rw [if_neg hlist, if_neg hlist]
  by_cases hcred : name = "credential"
  · rw [if_pos hcred, if_pos hcred]
    exact SideBySide.ofExcept_bind (fun _ => tokens.exchange _) tokens.raise
  · rw [if_neg hcred, if_neg hcred]
    exact SideBySide.throw tokens.raise

theorem executeTool (tokens : TokensAlike py h I E s sid token token') (name : String)
    (args : Json) :
    SideBySide h I (fun a b s t => a = b ∧ I s t) E (s.executeTool py sid token name args)
      (s.executeTool py sid token' name args) := by
  refine tokens.verify.bind fun _ _ => ?_
  refine (tokens.runTool name _).bind fun result _ => SideBySide.of_prop fun heq => ?_
  refine (tokens.audit _ _ _).bind fun _ _ => ?_
  exact SideBySide.pure fun _ _ hI => ⟨by rw [heq], hI⟩

/-- **A command is handled alike** with either token. -/
theorem handle (tokens : TokensAlike py h I E s sid token token') (commandType : String)
    (payload : Json) :
    SideBySide h I (fun a b s t => a = b ∧ I s t) E
      (Runtime.handle py s sid token commandType payload)
      (Runtime.handle py s sid token' commandType payload) := by
  unfold Runtime.handle
  by_cases hecho : commandType = "echo"
  · rw [if_pos hecho, if_pos hecho]
    exact SideBySide.ofExcept_bind (fun _ => SideBySide.pure fun _ _ hI => ⟨rfl, hI⟩) tokens.raise
  rw [if_neg hecho, if_neg hecho]
  by_cases hmodel : commandType = "model"
  · rw [if_pos hmodel, if_pos hmodel]
    exact SideBySide.ofExcept_bind (fun _ => SideBySide.pure fun _ _ hI => ⟨rfl, hI⟩) tokens.raise
  rw [if_neg hmodel, if_neg hmodel]
  by_cases htool : commandType = "tool"
  · rw [if_pos htool, if_pos htool]
    refine SideBySide.ofExcept_bind (fun name => ?_) tokens.raise
    refine SideBySide.ofExcept_bind (fun args => ?_) tokens.raise
    refine (tokens.executeTool _ _).bind fun out _ => SideBySide.of_prop fun heq => ?_
    exact SideBySide.pure fun _ _ hI => ⟨by rw [heq], hI⟩
  · rw [if_neg htool, if_neg htool]
    exact SideBySide.pure fun _ _ hI => ⟨rfl, hI⟩

end TokensAlike

end Nadi
