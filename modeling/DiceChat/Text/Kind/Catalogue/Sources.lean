import DiceChat.Text.Kind.Entry

/-! Kinds of where modules come from, and of what is at hand in conversation. -/

namespace DiceChat.Catalogue

/-- The kind `_frozen_importlib.BuiltinImporter`. -/
def builtinImporterEntry : KindEntry where
  name := "BuiltinImporter"
  home := "_frozen_importlib"
  measures := [24, 0, 546320, -48, 16]
  about := ["Meta path import for built-in modules.", "",
    "    All methods are either class or static methods to avoid the need to",
    "    instantiate the class.", "", "    "]
  parts :=
    partsOf .home ["__module__"] ++
    partsOf .account ["__doc__"] ++
    partsOf .thing ["_ORIGIN"] ++
    [⟨"module_repr", .freeFunction, "", ["Return repr for the module.", "",
       "        The method is deprecated.  The import machinery does the job itself.", "",
       "        "]⟩,
     ⟨"find_spec", .kindFunction, "", []⟩,
     ⟨"find_module", .kindFunction, "", ["Find the built-in module.", "",
       "        If 'path' is ever specified then the search is considered a failure.", "",
       "        This method is deprecated.  Use find_spec() instead.", "", "        "]⟩,
     ⟨"create_module", .freeFunction, "", ["Create a built-in module"]⟩,
     ⟨"exec_module", .freeFunction, "", ["Exec a built-in module"]⟩,
     ⟨"get_code", .kindFunction, "", [
       "Return None as built-in modules do not have code objects."]⟩,
     ⟨"get_source", .kindFunction, "", [
       "Return None as built-in modules do not have source code."]⟩,
     ⟨"is_package", .kindFunction, "", ["Return False as built-in modules are never packages."]⟩,
     ⟨"load_module", .kindFunction, "", [
       "Load the specified module into sys.modules and return it.", "",
       "    This method is deprecated.  Use loader.exec_module() instead.", "", "    "]⟩,
     ⟨"__dict__", .quality, "", ["dictionary for instance variables"]⟩,
     ⟨"__weakref__", .quality, "", ["list of weak references to the object"]⟩]

/-- The kind `_frozen_importlib_external._LoaderBasics`. -/
def loaderBasicsEntry : KindEntry where
  name := "_LoaderBasics"
  home := "_frozen_importlib_external"
  measures := [24, 0, 546320, -48, 16]
  about := ["Base class of common code needed by both SourceLoader and",
    "    SourcelessFileLoader."]
  parts :=
    partsOf .home ["__module__"] ++
    partsOf .account ["__doc__"] ++
    [⟨"is_package", .function, "", [
       "Concrete implementation of InspectLoader.is_package by checking if",
       "        the path returned by get_filename has a filename of '__init__.py'."]⟩,
     ⟨"create_module", .function, "", ["Use default semantics for module creation."]⟩,
     ⟨"exec_module", .function, "", ["Execute the module."]⟩,
     ⟨"load_module", .function, "", ["This method is deprecated."]⟩,
     ⟨"__dict__", .quality, "", ["dictionary for instance variables"]⟩,
     ⟨"__weakref__", .quality, "", ["list of weak references to the object"]⟩]

/-- The kind `_frozen_importlib_external.SourceLoader`. -/
def sourceLoaderEntry : KindEntry where
  name := "SourceLoader"
  home := "_frozen_importlib_external"
  above := ["_frozen_importlib_external._LoaderBasics", "object"]
  measures := [24, 0, 546320, -48, 16]
  parts :=
    partsOf .home ["__module__"] ++
    [⟨"path_mtime", .function, "", [
       "Optional method that returns the modification time (an int) for the",
       "        specified path (a str).", "",
       "        Raises OSError when the path cannot be handled.", "        "]⟩,
     ⟨"path_stats", .function, "", ["Optional method returning a metadata dict for the specified",
       "        path (a str).", "", "        Possible keys:",
       "        - 'mtime' (mandatory) is the numeric timestamp of last source",
       "          code modification;",
       "        - 'size' (optional) is the size in bytes of the source code.", "",
       "        Implementing this method allows the loader to read bytecode files.",
       "        Raises OSError when the path cannot be handled.", "        "]⟩,
     ⟨"_cache_bytecode", .function, "", [
       "Optional method which writes data (bytes) to a file path (a str).", "",
       "        Implementing this method allows for the writing of bytecode files.", "",
       "        The source path is needed in order to correctly transfer permissions",
       "        "]⟩,
     ⟨"set_data", .function, "", [
       "Optional method which writes data (bytes) to a file path (a str).", "",
       "        Implementing this method allows for the writing of bytecode files.", "        "]⟩,
     ⟨"get_source", .function, "", ["Concrete implementation of InspectLoader.get_source."]⟩,
     ⟨"source_to_code", .function, "", ["Return the code object compiled from source.", "",
       "        The 'data' argument can be any object type that compile() supports.",
       "        "]⟩,
     ⟨"get_code", .function, "", ["Concrete implementation of InspectLoader.get_code.", "",
       "        Reading of bytecode requires path_stats to be implemented. To write",
       "        bytecode, set_data must also be implemented.", "", "        "]⟩,
     ⟨"__doc__", .account, "", []⟩]

/-- The kind `_frozen_importlib_external.FileLoader`. -/
def fileLoaderEntry : KindEntry where
  name := "FileLoader"
  home := "_frozen_importlib_external"
  measures := [24, 0, 546320, -48, 16]
  about := ["Base file loader class which implements the loader protocol methods that",
    "    require file system usage."]
  parts :=
    partsOf .home ["__module__"] ++
    partsOf .account ["__doc__"] ++
    [⟨"__init__", .function, "", ["Cache the module name and the path to the file found by the",
       "        finder."]⟩] ++
    partsOf .function ["__eq__ __hash__"] ++
    [⟨"load_module", .function, "", ["Load a module from a file.", "",
       "        This method is deprecated.  Use exec_module() instead.", "", "        "]⟩,
     ⟨"get_filename", .function, "", [
       "Return the path to the source file as found by the finder."]⟩,
     ⟨"get_data", .function, "", ["Return the data from path as raw bytes."]⟩,
     ⟨"get_resource_reader", .function, "", []⟩,
     ⟨"__dict__", .quality, "", ["dictionary for instance variables"]⟩,
     ⟨"__weakref__", .quality, "", ["list of weak references to the object"]⟩]

/-- The kind `_frozen_importlib_external.SourceFileLoader`. -/
def sourceFileLoaderEntry : KindEntry where
  name := "SourceFileLoader"
  home := "_frozen_importlib_external"
  above := ["_frozen_importlib_external.FileLoader", "_frozen_importlib_external.SourceLoader",
    "_frozen_importlib_external._LoaderBasics", "object"]
  bases := ["_frozen_importlib_external.FileLoader", "_frozen_importlib_external.SourceLoader"]
  measures := [24, 0, 546320, -48, 16]
  about := ["Concrete implementation of SourceLoader using the file system."]
  parts :=
    partsOf .home ["__module__"] ++
    partsOf .account ["__doc__"] ++
    [⟨"path_stats", .function, "", ["Return the metadata for the path."]⟩,
     ⟨"_cache_bytecode", .function, "", []⟩,
     ⟨"set_data", .function, "", ["Write bytes data to a file."]⟩]

/-- The kind `_frozen_importlib.ModuleSpec`. -/
def moduleSpecEntry : KindEntry where
  name := "ModuleSpec"
  home := "_frozen_importlib"
  measures := [24, 0, 546320, -48, 16]
  about := ["The specification for a module, used for loading.", "",
    "    A module's spec is the source for information about the module.  For",
    "    data associated with the module, including source, use the spec's", "    loader.", "",
    "    `name` is the absolute name of the module.  `loader` is the loader",
    "    to use when loading the module.  `parent` is the name of the",
    "    package the module is in.  The parent is derived from the name.", "",
    "    `is_package` determines if the module is considered a package or",
    "    not.  On modules this is reflected by the `__path__` attribute.", "",
    "    `origin` is the specific location used by the loader from which to",
    "    load the module, if that information is available.  When filename is",
    "    set, origin will match.", "",
    "    `has_location` indicates that a spec's \"origin\" reflects a location.",
    "    When this is True, `__file__` attribute of the module is set.", "",
    "    `cached` is the location of the cached bytecode file, if any.  It",
    "    corresponds to the `__cached__` attribute.", "",
    "    `submodule_search_locations` is the sequence of path entries to",
    "    search when importing submodules.  If set, is_package should be",
    "    True--and False otherwise.", "",
    "    Packages are simply modules that (may) have submodules.  If a spec",
    "    has a non-None value in `submodule_search_locations`, the import",
    "    system will consider modules loaded from the spec as packages.", "",
    "    Only finders (see importlib.abc.MetaPathFinder and",
    "    importlib.abc.PathEntryFinder) should modify ModuleSpec instances.", "", "    "]
  parts :=
    partsOf .home ["__module__"] ++
    partsOf .account ["__doc__"] ++
    partsOf .function ["__init__ __repr__ __eq__"] ++
    partsOf .property ["cached"] ++
    [⟨"parent", .property, "", ["The name of the module's parent."]⟩,
     ⟨"has_location", .property, "", []⟩,
     ⟨"__dict__", .quality, "", ["dictionary for instance variables"]⟩,
     ⟨"__weakref__", .quality, "", ["list of weak references to the object"]⟩,
     ⟨"__hash__", .nothing, "", []⟩]

/-- The kind `_sitebuiltins.Quitter`. -/
def quitterEntry : KindEntry where
  name := "Quitter"
  home := "_sitebuiltins"
  measures := [24, 0, 546320, -48, 16]
  parts :=
    partsOf .home ["__module__"] ++
    partsOf .function ["__init__ __repr__ __call__"] ++
    [⟨"__dict__", .quality, "", ["dictionary for instance variables"]⟩,
     ⟨"__weakref__", .quality, "", ["list of weak references to the object"]⟩,
     ⟨"__doc__", .account, "", []⟩]

/-- The kind `_sitebuiltins._Printer`. -/
def printerEntry : KindEntry where
  name := "_Printer"
  home := "_sitebuiltins"
  measures := [24, 0, 546320, -48, 16]
  about := ["interactive prompt objects for printing the license text, a list of",
    "    contributors and the copyright notice."]
  parts :=
    partsOf .home ["__module__"] ++
    partsOf .account ["__doc__"] ++
    partsOf .thing ["MAXLINES"] ++
    partsOf .function ["__init__ _Printer__setup __repr__ __call__"] ++
    [⟨"__dict__", .quality, "", ["dictionary for instance variables"]⟩,
     ⟨"__weakref__", .quality, "", ["list of weak references to the object"]⟩]

/-- The kind `_sitebuiltins._Helper`. -/
def helperEntry : KindEntry where
  name := "_Helper"
  home := "_sitebuiltins"
  measures := [24, 0, 546320, -48, 16]
  about := ["Define the builtin 'help'.", "",
    "    This is a wrapper around pydoc.help that provides a helpful message",
    "    when 'help' is typed at the Python interactive prompt.", "",
    "    Calling help() at the Python prompt starts an interactive help session.",
    "    Calling help(thing) prints help for the python object 'thing'.", "    "]
  parts :=
    partsOf .home ["__module__"] ++
    partsOf .account ["__doc__"] ++
    partsOf .function ["__repr__ __call__"] ++
    [⟨"__dict__", .quality, "", ["dictionary for instance variables"]⟩,
     ⟨"__weakref__", .quality, "", ["list of weak references to the object"]⟩]

/-- The kinds of this module. -/
def sourcesEntries : List KindEntry :=
  [builtinImporterEntry, loaderBasicsEntry, sourceLoaderEntry, fileLoaderEntry,
    sourceFileLoaderEntry, moduleSpecEntry, quitterEntry, printerEntry, helperEntry]

end DiceChat.Catalogue
