import OperatorSource.Files.Fault

/-!
# File systems

The program leaves its files to the operating system: it reads the whole text of a file, and it
writes a whole text to one. Which paths lead to files, what they hold and who may use them is not
decided here, and so either may fail for any reason. A write leaves files behind in any case, also
where it fails.
-/

namespace OperatorSource

/-- Files of some kind, as the operating system lets the program use them. -/
class FileSystem (Files : Type) where
  /-- The text of the file that a path leads to. -/
  read (files : Files) (path : String) : Except FileFault String
  /-- How writing a text to a path ends, and the files after it. -/
  write (files : Files) (path text : String) : Except FileFault Unit × Files

end OperatorSource
