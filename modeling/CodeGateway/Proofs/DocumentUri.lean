import CodeGateway.Proofs.Trimming
import CodeGateway.Workspace.Path

namespace CodeGateway

theorem Url.ofFilePath?_eq_none_iff {path : List Char} :
    ofFilePath? path = none ↔ Path.isAbsolute path = false := by
  cases path with
  | nil => simp [ofFilePath?, Path.isAbsolute]
  | cons c rest =>
    by_cases slash : c = '/'
    · subst slash
      simp [ofFilePath?, Path.isAbsolute]
    · simp [ofFilePath?, Path.isAbsolute, slash]

theorem Path.isAbsolute_join {directory : List Char} (absolute : isAbsolute directory = true)
    (path : List Char) : isAbsolute (join directory path) = true := by
  cases directory with
  | nil => cases absolute
  | cons c directory =>
    have slash : c = '/' := by simpa [isAbsolute] using absolute
    subst slash
    unfold join
    split
    · rename_i direct
      simpa using direct
    · split <;> simp [isAbsolute]

theorem documentUri?_eq_none_iff {root : List Char} (absolute : Path.isAbsolute root = true)
    {raw : String} : documentUri? raw root = none ↔ Text.isBlankText raw = true := by
  have path := Path.isAbsolute_join absolute (Text.trim raw).toList
  have blank : (Text.trim raw).isEmpty = true ↔ Text.isBlankText raw = true := by
    rw [Text.isBlankText, ← Text.trimChars_eq_nil_iff, Text.trim]
    simp
  unfold documentUri?
  dsimp only
  split
  · rename_i none
    simp [blank.mp none]
  · rename_i some
    have notBlank : Text.isBlankText raw = false := by
      rw [Bool.eq_false_iff, Ne, ← blank]
      simpa using some
    split
    · simp [notBlank]
    · rw [Option.map_eq_none_iff, Url.ofFilePath?_eq_none_iff, path, notBlank]
      simp

end CodeGateway
