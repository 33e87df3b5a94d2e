import SchemaForge.File.Path
import SchemaForge.Text.Quoted
import SchemaForge.Text.Utf8

/-!
# File faults

Why a file operation did not succeed. Most faults are refusals of the file system
and name the path; a few are found before the file system is asked, because the
path or the content cannot be turned into bytes.
-/

namespace SchemaForge

/-- Why a file operation did not succeed. -/
inductive FileFault where
  /-- There is nothing at the path. -/
  | missing (path : Text)
  /-- There is something at the path already. -/
  | alreadyExists (path : Text)
  /-- A file stands where a directory is needed. -/
  | notDirectory (path : Text)
  /-- A directory stands where a file is needed. -/
  | isDirectory (path : Text)
  /-- A part of the path is too long. -/
  | nameTooLong (path : Text)
  /-- A file would be copied onto itself. -/
  | sameFile (source target : Text)
  /-- A schema is not UTF-8. -/
  | schemaNotUtf8 (path : Text) (fault : Utf8.DecodeFault)
  /-- A refusal in words. -/
  | refused (message : Text)
  /-- A path holds the code point zero. -/
  | embeddedNull
  /-- The content of a file is not UTF-8. -/
  | undecodable (fault : Utf8.DecodeFault)
  /-- A path or a content has no bytes. -/
  | unencodable (fault : Utf8.EncodeFault)
deriving DecidableEq

namespace FileFault

/-- Whether the file system refused. The other faults are found before it is asked,
and a caller that tolerates refusals does not tolerate them. -/
def isRefusal : FileFault → Bool
  | embeddedNull | undecodable _ | unencodable _ => false
  | _ => true

/-- The wording of a fault. -/
def message : FileFault → Text
  | missing path => "[Errno 2] No such file or directory: " ++ Text.quoted path
  | alreadyExists path => "[Errno 17] File exists: " ++ Text.quoted path
  | notDirectory path => "[Errno 20] Not a directory: " ++ Text.quoted path
  | isDirectory path => "[Errno 21] Is a directory: " ++ Text.quoted path
  | nameTooLong path => "[Errno 36] File name too long: " ++ Text.quoted path
  | sameFile source target =>
    Text.concat ["PosixPath(", Text.quoted source, ") and PosixPath(", Text.quoted target,
      ") are the same file"]
  | schemaNotUtf8 path fault => Text.concat [path, " is not valid UTF-8: ", fault.message]
  | refused message => message
  | embeddedNull => "embedded null byte"
  | undecodable fault => fault.message
  | unencodable fault => fault.message

end FileFault

end SchemaForge
