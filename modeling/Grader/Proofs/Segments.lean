import Grader.Api.Route
import Mathlib.Data.String.Basic

/-! The segments of a path as a list: what stands between its slashes. -/
namespace Grader.Api

namespace Target

open String in
/-- The pieces of a text between slashes, from within a piece that starts after `l` and has come as
far as `m`. -/
theorem splitOnAux_slash (l m r : List Char) (pieces : List String) :
    splitOnAux (ofList (l ++ m ++ r)) "/" ⟨utf8Len l⟩ ⟨utf8Len l + utf8Len m⟩ 0 pieces =
      pieces.reverse ++ (List.splitOnPPrepend (· == '/') r m.reverse).map ofList := by
  induction r generalizing l m pieces with
  | nil =>
    have piece := extract_of_valid l m []
    rw [splitOnAux, if_pos (by simp [-ofList_append, atEnd_iff, rawEndPos_ofList]), piece]
    simp
  | cons c r ih =>
    have going : ¬Pos.Raw.atEnd (ofList (l ++ m ++ c :: r)) ⟨utf8Len l + utf8Len m⟩ = true := by
      have size := c.utf8Size_pos
      simp [-ofList_append, atEnd_iff, rawEndPos_ofList]
      omega
    have char : Pos.Raw.get (ofList (l ++ m ++ c :: r)) ⟨utf8Len l + utf8Len m⟩ = c := by
      simpa [-ofList_append] using get_of_valid (l ++ m) (c :: r)
    have next : Pos.Raw.next (ofList (l ++ m ++ c :: r)) ⟨utf8Len l + utf8Len m⟩ =
        ⟨utf8Len l + utf8Len m + c.utf8Size⟩ := by
      simpa [-ofList_append] using next_of_valid (l ++ m) c r
    have slash : Pos.Raw.get "/" 0 = '/' := by decide
    rw [splitOnAux, if_neg going, char, slash]
    by_cases same : c = '/'
    · -- The piece ends, and the next one starts behind the slash.
      obtain rfl := same
      have piece := extract_of_valid l m ('/' :: r)
      have one : Pos.Raw.next "/" 0 = ⟨1⟩ := by decide
      have back : Pos.Raw.unoffsetBy ⟨utf8Len l + utf8Len m + '/'.utf8Size⟩ ⟨1⟩ =
          ⟨utf8Len l + utf8Len m⟩ := rfl
      have atEnd : Pos.Raw.atEnd "/" ⟨1⟩ = true := by decide
      have rest := ih (l ++ m ++ ['/']) [] (ofList m :: pieces)
      rw [if_pos (by decide)]
      simp only [next, one, atEnd, if_true, back, piece]
      simpa [-ofList_append, Nat.add_assoc, List.splitOnPPrepend_cons_eq_if] using rest
    · have back : Pos.Raw.unoffsetBy ⟨utf8Len l + utf8Len m⟩ 0 = ⟨utf8Len l + utf8Len m⟩ := rfl
      have rest := ih l (m ++ [c]) pieces
      rw [if_neg (by simpa using same), back, next]
      simpa [-ofList_append, Nat.add_assoc, List.splitOnPPrepend_cons_eq_if, same] using rest

theorem splitOn_slash (s : List Char) :
    (String.ofList s).splitOn "/" = (s.splitOnP (· == '/')).map String.ofList := by
  have split := splitOnAux_slash [] [] s []
  simpa [String.splitOn] using split

/-- The segments of a target are the pieces of its path, without the one before the first slash. -/
theorem segments_eq (target : String) :
    segments target =
      match path target.toList with
      | '/' :: rest => (rest.splitOnP (· == '/')).map String.ofList
      | _ => [] := by
  unfold segments
  generalize path target.toList = s
  cases s with
  | nil => rfl
  | cons c rest =>
    by_cases slash : c = '/'
    · obtain rfl := slash
      exact splitOn_slash rest
    · simp [slash]

end Target

example : Target.segments "/submissions/7?full" = ["submissions", "7"] := by
  rw [Target.segments_eq]
  decide

end Grader.Api
