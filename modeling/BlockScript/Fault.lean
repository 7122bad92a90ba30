/-!
# What can go wrong

Every operation of the library that can fail does so with a `Fault`. A fault says what happened in
terms of the values involved; its wording is one function, `Fault.message`, because some faults
are reported to the user while work goes on (an asset that cannot be loaded) and others end it.
-/

namespace BlockScript

/-- The three kinds of files that a project is decorated with. -/
inductive AssetKind where
  | costume
  | backdrop
  | sound
deriving DecidableEq

namespace AssetKind

def word : AssetKind → String
  | costume => "costume"
  | backdrop => "backdrop"
  | sound => "sound"

/-- The kind as the first word of a sentence. -/
def title : AssetKind → String
  | costume => "Costume"
  | backdrop => "Backdrop"
  | sound => "Sound"

end AssetKind

/-- Causes of failure. -/
inductive Fault where
  | malformedSource
  /-- A table lacks a key; the key is given as it is quoted. -/
  | missingKey (quotedKey : String)
  | missingEntry (name : String)
  | noOperation (typeName operation : String)
  | wrongType (text : String)
  | badValue (text : String)
  /-- A position lies outside of a list. -/
  | badIndex (text : String)
  /-- Blocks contain each other in a circle. -/
  | endless
  /-- A number is too large. -/
  | overflow (text : String)
  | malformedJson
  | notArchive
  | missingFile (quotedPath : String)
  | isDirectory (quotedPath : String)
  | notDirectory (quotedPath : String)
  /-- The bytes are not text; the detail says where and why. -/
  | notText (detail : String)
  /-- An asset file named by the project does not exist. -/
  | missingAsset (kind : AssetKind) (path : String)
  | unsupportedAsset (kind : AssetKind) (extension : String)
  | noSourceFile
deriving DecidableEq

namespace Fault

def message : Fault → String
  | malformedSource => "<syntax error>"
  | missingKey key => key
  | missingEntry name => "\"There is no item named '" ++ name ++ "' in the archive\""
  | noOperation t op => "'" ++ t ++ "' object has no attribute '" ++ op ++ "'"
  | wrongType text => text
  | badValue text => text
  | badIndex text => text
  | endless => "blocks contain each other"
  | overflow text => text
  | malformedJson => "<json error>"
  | notArchive => "File is not a zip file"
  | missingFile path => "[Errno 2] No such file or directory: " ++ path
  | isDirectory path => "[Errno 21] Is a directory: " ++ path
  | notDirectory path => "[Errno 20] Not a directory: " ++ path
  | notText detail => "'utf-8' codec can't decode " ++ detail
  | missingAsset kind path => kind.title ++ " file not found: " ++ path
  | unsupportedAsset kind extension =>
    "Unsupported " ++ kind.word ++ " format: " ++ extension
  | noSourceFile =>
    "Cannot determine source file. Use transpile_to_json() and save_sb3() instead."

end Fault

end BlockScript
