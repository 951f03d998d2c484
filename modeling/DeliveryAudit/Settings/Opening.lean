import DeliveryAudit.Text.Quoted
/-!
# Opening files

A path leads to the bytes of a file, or to a fault in opening it. What
opens files is given from outside.
-/

namespace DeliveryAudit

/-- Why a file is not opened. -/
inductive OpenFault where
  | notFound
  /-- The path holds the character zero. -/
  | zero
  /-- The path, or a name in it, is too long. -/
  | nameTooLong
  | notFolder
  | isFolder
  | other (text : String)
deriving DecidableEq

/-- The wording of a path that is not opened. -/
def OpenFault.message (path : String) : OpenFault → String
  | notFound => "[Errno 2] No such file or directory: " ++ quoted path
  | zero => "embedded null byte"
  | nameTooLong => "[Errno 36] File name too long: " ++ quoted path
  | notFolder => "[Errno 20] Not a directory: " ++ quoted path
  | isFolder => "[Errno 21] Is a directory: " ++ quoted path
  | other text => text

/-- What opens files: every path leads to bytes or to a fault. -/
abbrev Opener := String → Except OpenFault (List UInt8)

end DeliveryAudit
