import CnfSearch.Explanation

namespace CnfSearch

-- A failure that no other case describes is given in the system's own words.
inductive FileError where
  | notFound
  | isDirectory
  | notDirectory
  | notUtf8
  | nameTooLong
  | nulInPath
  | other (words : String)
  deriving DecidableEq

def FileError.explain : FileError → Explanation
  | .notFound => .plain "No such file or directory (os error 2)"
  | .isDirectory => .plain "Is a directory (os error 21)"
  | .notDirectory => .plain "Not a directory (os error 20)"
  | .notUtf8 => .plain "stream did not contain valid UTF-8"
  | .nameTooLong => .plain "File name too long (os error 36)"
  | .nulInPath => .plain "file name contained an unexpected NUL byte"
  | .other words => .plain words

abbrev Source := String → Except FileError String

end CnfSearch
