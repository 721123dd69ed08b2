/-! The ways an operation on files can fail, and how each failure reads. A failure the system
reports carries its number (`No such file or directory (os error 2)`); one the program raises
itself carries only its text. -/
namespace SourceBundle

inductive OsError where
  | notFound
  | notADirectory
  | isADirectory
  | alreadyExists
  | tooManyLinks
  | nameTooLong
  | other (text : String)
  deriving DecidableEq, Repr

namespace OsError

def message : OsError → String
  | notFound => "No such file or directory (os error 2)"
  | notADirectory => "Not a directory (os error 20)"
  | isADirectory => "Is a directory (os error 21)"
  | alreadyExists => "File exists (os error 17)"
  | tooManyLinks => "Too many levels of symbolic links (os error 40)"
  | nameTooLong => "File name too long (os error 36)"
  | other text => text

end OsError

end SourceBundle
