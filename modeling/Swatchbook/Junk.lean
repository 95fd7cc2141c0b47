import Swatchbook.Text

/-!
# Junk

Files that operating systems and editors leave behind and that never belong
in a styleguide. Other files with a leading point are not junk.
-/

namespace Swatchbook

def junkNames : List Text :=
  [".DS_Store", ".AppleDouble", ".LSOverride", ".Trashes", ".Spotlight-V100", ".fseventsd",
    ".TemporaryItems", "__MACOSX", "Thumbs.db", "ehthumbs.db", "Desktop.ini", "npm-debug.log",
    "Icon\r"]

def isJunk (name : Text) : Bool :=
  junkNames.contains name || List.isPrefixOf "._" name || List.isSuffixOf "~" name ||
    List.isSuffixOf "@eaDir" name || (List.isPrefixOf "." name && List.isSuffixOf ".swp" name)

end Swatchbook
