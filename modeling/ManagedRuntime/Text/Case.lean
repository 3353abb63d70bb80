/-! The case of ASCII letters; other characters have no case here. -/
namespace ManagedRuntime.Text

def lowerCase (text : String) : String := String.ofList (text.toList.map Char.toLower)

end ManagedRuntime.Text
