import ActorFacade.Text.Basic

/-! # Reserved names

Attributes of these names mean something to the classes that have them, whoever declares them.
-/

namespace ActorFacade

/-- The name of the function that an instance is initialised with. -/
def initName : Text := "__init__"

/-- The name of the function that an instance is made by. -/
def newName : Text := "__new__"

/-- The name of the function that is called when a class that derives from another is declared. -/
def derivationName : Text := "__init_subclass__"

/-- The name of the function that is called when a class is given parameters. -/
def parametersName : Text := "__class_getitem__"

/-- The name of the list of the parameters of a class. -/
def parameterListName : Text := "__parameters__"

/-- The name of the list of the bases of a class as they were written. -/
def writtenBasesName : Text := "__orig_bases__"

/-- The name of the attribute by which a class shows a module. -/
def moduleName : Text := "__module__"

/-- The name of the attribute by which a class says what its name within its module is. -/
def shownNameName : Text := "__qualname__"

/-- The name of the attribute by which a body passes on its variables. -/
def cellName : Text := "__classcell__"

/-- The names of the attributes of a body that its class does not keep. -/
def unkeptNames : List Text := [shownNameName, cellName]

/-- The name of the documentation of an object. -/
def docName : Text := "__doc__"

/-- The name under which a class has the types of what it holds. -/
def annotationsName : Text := "__annotations__"

/-- The name of the mark of protocols. -/
def markName : Text := "_is_protocol"

/-- The name of the function by which a protocol decides which classes follow it. -/
def hookName : Text := "__subclasshook__"

/-- The name of the set of the abstract names of a class. -/
def abstractNamesName : Text := "__abstractmethods__"

/-- The names of the attributes that a class that can have abstract names has by that. -/
def abstractableNames : List Text := [abstractNamesName, "_abc_impl"]

/-- The name of the list of the parts of instances. -/
def partListName : Text := "__slots__"

/-- The name of the entries of an instance. -/
def entriesName : Text := "__dict__"

/-- The name of the place for those who watch an instance. -/
def watchersName : Text := "__weakref__"

/-- The name of the function that is asked for every attribute of an instance. -/
def askedFirstName : Text := "__getattribute__"

/-- The name of the function that is asked for the attributes that are missing. -/
def askedLastName : Text := "__getattr__"

end ActorFacade
