import PhoneticCatalog.Catalog.Source
import PhoneticCatalog.Text.Encoding

/-!
# Catalogs in files

A catalog may be the content of a file whose name is the catalog's with a suffix. `Source.ofFolder`
reads catalogs from a folder and tells about each of them; `Source.ofPackage` reads them from the
folder of a named package and tells nothing.
-/

namespace PhoneticCatalog.Catalog

/-- How the files of catalogs are named and written. -/
structure FileStyle where
  suffix : List Char := ".txt".toList
  encoding : List Char := "utf-8".toList
  deriving DecidableEq, Repr

/-- The path of a catalog's file in a folder. -/
def FileStyle.path (style : FileStyle) (folder : Storage.Path) (catalog : List Char) :
    Storage.Path :=
  folder.join (.ofText (catalog ++ style.suffix))

/-- Bytes as the text of a catalog, in an encoding that is given by name. -/
def decodeText (encoding : List Char) (bytes : List UInt8) : Except OpenFault (List Char) :=
  match Text.Encoding.ofName? encoding with
  | none => .error (.unknownEncoding encoding)
  | some e =>
    match e.decode bytes with
    | .ok text => .ok (Text.unifyNewlines text)
    | .error (.fault f) => .error (.undecodable f)
    | .error (.noMark width) => .error (.noByteOrderMark width)

/-- The text of the file at a path. The file is looked for before its encoding is, and both only
under names without zero characters. -/
def readFile (tree : Storage.FileTree) (style : FileStyle) (path : Storage.Path) :
    Except OpenFault (List Char) :=
  if style.encoding.contains '\x00' then .error .zeroInEncoding
  else if path.toText.contains '\x00' then .error .zeroInPath
  else
    match tree.read path with
    | .error fault => .error (.system fault path.toText)
    | .ok bytes => decodeText style.encoding bytes

namespace Source

/-- The answer of a folder of catalogs, after its file was read. A missing file has a wording of its
own here. -/
def folderReading (catalog path : List Char) : Except OpenFault (List Char) → Reading
  | .ok text => ⟨[.sourceRead catalog path text.length], .ok text⟩
  | .error (.system .missing _) => ⟨[.sourceMissing catalog path], .error (.noFile path)⟩
  | .error fault =>
    ⟨if fault.isNotFound then [.sourceUnreadable catalog path (fault.reason?.getD "")] else [],
     .error fault⟩

/-- The catalogs in a folder. -/
def ofFolder (tree : Storage.FileTree) (folder : Storage.Path) (style : FileStyle) : Source where
  read catalog :=
    let path := style.path folder catalog
    folderReading catalog path.toText (readFile tree style path)

/-- The catalogs in the folder of a package, if there is a package of that name among the given
ones. -/
def ofPackage (tree : Storage.FileTree) (packages : List (List Char × Storage.Path))
    (name : List Char) (style : FileStyle) : Source where
  read catalog :=
    match packages.lookup name with
    | none => ⟨[], .error (.noPackage name)⟩
    | some folder => ⟨[], readFile tree style (style.path folder catalog)⟩

end Source

end PhoneticCatalog.Catalog
