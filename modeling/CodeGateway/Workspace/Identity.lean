namespace CodeGateway

def programName : String := "codegraph-bridge"

def programVersion : String := "0.1.0"

end CodeGateway
