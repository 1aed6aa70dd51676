import SpokenForm.Proofs.Transducer.Plain
import SpokenForm.Proofs.Transducer.Product
import SpokenForm.Proofs.Transducer.Shortest
import SpokenForm.Proofs.Transducer.Subsets

/-! The engine that is used computes what an engine is to compute. -/
namespace SpokenForm

open Transducer

theorem Engine.standard_lawful : (standard : Engine ℚ).Lawful where
  sortArcs := isSorting_sortArcs
  acceptor := isAcceptor_acceptor
  compose := by
    intro first second acyclic _ loopless _ _
    obtain ⟨pair, isComposition⟩ := exists_isComposition acyclic loopless
    exact ⟨Transducer.compose first second, pair, rfl, isComposition⟩
  projectOutput := isProjection_projectOutput
  removeEmpty machine tame := ⟨machine.removeEmpty, rfl, tame_removeEmpty tame,
    plain_removeEmpty tame.copies, sameLeast_removeEmpty tame.acyclic⟩
  determinize machine tame plain := ⟨machine.determinize, rfl, determinize_spec tame plain⟩
  shortestPaths k machine positive tame :=
    ⟨machine.shortestPaths k, rfl, shortestPaths_spec positive tame.acyclic⟩
  paths _ _ := .refl _

end SpokenForm
