/-! The version that the program tells others. -/
namespace LinkShot

def version : String := "0.1.0"

end LinkShot
